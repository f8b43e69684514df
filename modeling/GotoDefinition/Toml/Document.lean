import GotoDefinition.Toml.Statement

/-!
# Documents

The statements of a document fill its root table one after the other; a header moves
the place where the assignments after it go.
-/

namespace GotoDefinition.Toml

/-- A document while it is read: its root table, and the header that is open. -/
structure Draft where
  root : Members := []
  header : List String := []

namespace Draft

/-- Carry out one statement. -/
def step? (draft : Draft) : Statement → Option Draft
  | .empty => some draft
  | .assignment key value => do
    let root ← draft.root.modifyAt (Members.assign value key) draft.header
    return { draft with root }
  | .tableHeader key => do
    let last ← key.getLast?
    let root ← draft.root.modifyAt (Members.openTable last) key.dropLast
    return { root, header := key }
  | .elementHeader key => do
    let last ← key.getLast?
    let root ← draft.root.modifyAt (Members.openElement last) key.dropLast
    return { root, header := key }

end Draft

/-- The root table of a document, without a byte order mark in front. -/
def parse? (text : Text) : Option (List (String × Value)) := do
  let text := if text.head?.any (fun c => c.toNat == 0xFEFF) then text.drop 1 else text
  let statements ← statements? (text.length + 1) text
  let draft ← statements.foldlM Draft.step? {}
  return membersToValues draft.root

end GotoDefinition.Toml
