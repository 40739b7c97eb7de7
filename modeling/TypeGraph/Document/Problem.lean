import TypeGraph.Document.Tree
import TypeGraph.Text.Quoted

/-! Why a document cannot be decoded. -/
namespace TypeGraph

/-- What stood in a document where something else was expected. -/
inductive Found where
  | null
  | bool (value : Bool)
  | number (value : Numeral)
  | string (value : String)
  | sequence
  | map

def Found.describe : Found → String
  | null => "null"
  | bool value => s!"boolean `{value}`"
  | number value => value.describe
  | string value => "string " ++ Text.Quoted.encode value
  | sequence => "sequence"
  | map => "map"

/-- Every problem but `syntaxError` is one of shape: the text is a document, but not of the form
that was asked for. -/
inductive Problem where
  | syntaxError
  | missingField (name : String)
  | duplicateField (name : String)
  | invalidType (found : Found) (expected : String)
  | invalidValue (found : Found) (expected : String)
  | invalidLength (length : Nat) (expected : String)
  | unknownVariant (name : String) (expected : List String)
  | noMatch (union : String)

namespace Problem

private def ticked (name : String) : String := s!"`{name}`"

/-- One name, one of two, or one of a list. -/
def alternatives : List String → String
  | [] => "there are no variants"
  | [only] => "expected " ++ ticked only
  | [first, second] => s!"expected {ticked first} or {ticked second}"
  | names => "expected one of " ++ String.intercalate ", " (names.map ticked)

/-- The text of a shape problem; a syntax error has none of its own. -/
def message : Problem → String
  | syntaxError => ""
  | missingField name => s!"missing field `{name}`"
  | duplicateField name => s!"duplicate field `{name}`"
  | invalidType found expected => s!"invalid type: {found.describe}, expected {expected}"
  | invalidValue found expected => s!"invalid value: {found.describe}, expected {expected}"
  | invalidLength length expected => s!"invalid length {length}, expected {expected}"
  | unknownVariant name expected => s!"unknown variant `{name}`, {alternatives expected}"
  | noMatch union => s!"data did not match any variant of untagged enum {union}"

def isSyntaxError : Problem → Bool
  | syntaxError => true
  | _ => false

end Problem

/-- What a reader that expected something else finds; a tree without a value is an error of the
text itself. -/
def Tree.mismatch (expected : String) : Tree → Problem
  | .broken | .number none | .string none => .syntaxError
  | .null => .invalidType .null expected
  | .bool value => .invalidType (.bool value) expected
  | .number (some value) => .invalidType (.number value) expected
  | .string (some value) => .invalidType (.string value) expected
  | .untyped _ text => .invalidType (.string text) expected
  | .tagged _ content | .aliasOf content => content.mismatch expected
  | .seq _ _ => .invalidType .sequence expected
  | .map _ _ => .invalidType .map expected

end TypeGraph
