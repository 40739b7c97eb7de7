import TypeGraph.Text.UpperCase

/-! Naming rules. The hard ones decide whether a name may be used at all; the rest are
conventions. -/
namespace TypeGraph.Identifier

/-- A letter of the Latin alphabet or an underscore. -/
def isHead (c : Char) : Bool := c.isAlpha || c = '_'

/-- What may follow the first character: a head character or a decimal digit. -/
def isTail (c : Char) : Bool := c.isAlphanum || c = '_'

/-- Whether the name has the form `[A-Za-z_][A-Za-z0-9_]*`. -/
def isValid (name : String) : Bool :=
  match name.toList with
  | [] => false
  | c :: rest => isHead c && rest.all isTail

/-- Whether the name starts with one of `A` to `Z`. -/
def startsUpper (name : String) : Bool := name.toList.head?.any Char.isUpper

/-- Whether the name starts with one of `a` to `z`. -/
def startsLower (name : String) : Bool := name.toList.head?.any Char.isLower

/-- Literals that mean something else wherever values are written. -/
def reservedLiterals : List String := ["true", "false", "null"]

def isReservedLiteral (value : String) : Bool := reservedLiterals.contains value

end TypeGraph.Identifier
