import GotoDefinition.Position
import GotoDefinition.Text.Units
import GotoDefinition.Uri.Basic

/-!
# Symbols

A symbol is a declared name, what kind of thing it names and where it is declared.
-/

namespace GotoDefinition

/-- The kind of a symbol, by its number in the language server protocol. -/
structure SymbolKind where
  code : Int
deriving DecidableEq, Repr

namespace SymbolKind

def classKind : SymbolKind := ⟨5⟩

def method : SymbolKind := ⟨6⟩

def enumKind : SymbolKind := ⟨10⟩

def interface : SymbolKind := ⟨11⟩

def struct : SymbolKind := ⟨23⟩

end SymbolKind

/-- A declared name.  The container is the symbol around it, where that is known. -/
structure Symbol where
  name : Text
  kind : SymbolKind
  uri : Uri
  range : Range
  container : Option Text := none
deriving DecidableEq, Repr

namespace Symbol

/-- Whether a definition request may lead to the symbol: only methods are targets. -/
def isMethod (symbol : Symbol) : Bool :=
  symbol.kind = SymbolKind.method

end Symbol

end GotoDefinition
