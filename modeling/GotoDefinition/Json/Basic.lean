import GotoDefinition.Text.Units

/-!
# JSON values

Numbers keep whether they were written as an integer.  The members of an object are
in increasing order of their keys, each key once, so that two objects with the same
members are the same value and members are always visited in the same order.
-/

namespace GotoDefinition

/-- A JSON value. -/
inductive Json where
  | null
  | bool (value : Bool)
  | integer (value : Int)
  | float (value : Float)
  | string (value : String)
  | array (items : List Json)
  | object (members : List (String × Json))
deriving Inhabited

namespace Json

/-- Put a member into its place among members in key order, replacing one with its key. -/
def insertMember (key : String) (value : Json) : List (String × Json) → List (String × Json)
  | [] => [(key, value)]
  | (otherKey, otherValue) :: rest =>
    if key < otherKey then (key, value) :: (otherKey, otherValue) :: rest
    else if key = otherKey then (key, value) :: rest
    else (otherKey, otherValue) :: insertMember key value rest

/-- The object with the given members; of several with one key the last counts. -/
def ofMembers (members : List (String × Json)) : Json :=
  .object (members.foldl (fun sorted member => insertMember member.1 member.2 sorted) [])

/-- The value of an object's member. -/
def get? : Json → String → Option Json
  | .object members, key => members.lookup key
  | _, _ => none

/-- The value of a member, an absent one being null. -/
def getD (value : Json) (key : String) : Json :=
  (value.get? key).getD .null

/-- Whether a value is null. -/
def isNull : Json → Bool
  | .null => true
  | _ => false

/-- The JSON string of a text. -/
def text (text : Text) : Json :=
  .string (String.ofList text)

/-- A natural number as JSON. -/
def nat (n : Nat) : Json :=
  .integer n

end Json

end GotoDefinition
