import TypeGraph.Dictionary
import TypeGraph.Document.CoreScalar
import TypeGraph.Document.Reading

/-! Decoders: the shapes that a tree may be asked to have. A decoder walks a tree in the order of
its text and stops at the first problem. -/
namespace TypeGraph

/-- Reads a value out of a tree by the rules of a dialect. -/
abbrev Decoder (α : Type) := Dialect → Tree → Reading α

namespace Decoder
variable {α : Type}

/-- The value of a tree whose reader may follow `aliases` aliases. -/
def run (decode : Decoder α) (dialect : Dialect) (tree : Tree) (aliases : Nat) :
    Except Problem α :=
  (decode dialect tree).run' aliases

/-- The value of a JSON value, which has no aliases. -/
def ofJson? (decode : Decoder α) (value : Json) : Except Problem α :=
  decode.run .json (.ofJson value) 0

/-- The text must go on where a container ends. -/
def requireClosed (closed : Bool) : Reading Unit :=
  if closed then return () else .fail .syntaxError

/-- Step over a value that nobody reads. It may be of any shape, but its JSON text must be whole. -/
def skip (dialect : Dialect) (tree : Tree) : Reading Unit :=
  match dialect with
  | .json => requireClosed tree.isWhole
  | .yaml | .whole => return ()

/-- A YAML value left empty. -/
def isEmptyScalar : Tree → Bool
  | .untyped .plain "" | .tagged _ (.untyped .plain "") => true
  | _ => false

def string : Decoder String := fun _ tree => do
  match ← tree.follow with
  | .string (some value) => return value
  | .untyped _ value | .tagged _ (.untyped _ value) => return value
  | other => .fail (other.mismatch "a string")

def bool : Decoder Bool := fun _ tree => do
  match ← tree.follow with
  | .bool value => return value
  | other => .fail (other.mismatch "a boolean")

/-- A number of 32 bits. -/
def word : Decoder UInt32 := fun _ tree => do
  let natural := fun n : Nat =>
    if n < UInt32.size then pure n.toUInt32
    else Reading.fail (.invalidValue (.number (.natural n)) "u32")
  let scalar := fun text : String =>
    match CoreScalar.natural? Numeral.maxNatural text with
    | some n => natural n
    | none => .fail (.invalidType (.string text) "u32")
  match ← tree.follow with
  | .number (some (.natural n)) => natural n
  | .number (some (.negative 0)) => natural 0
  | .number (some (.negative n)) => .fail (.invalidValue (.number (.negative n)) "u32")
  | .untyped .plain text | .tagged _ (.untyped .plain text) => scalar text
  | .tagged tag (.untyped .literal text) =>
    if tag = .int then scalar text else .fail (.invalidType (.string text) "u32")
  | other => .fail (other.mismatch "u32")

/-- Null, in whichever spelling the dialect has for it, or a value. -/
def nullable (decode : Decoder α) : Decoder (Option α) := fun dialect tree => do
  let tree ← tree.follow
  match tree with
  | .null => return none
  | .untyped .plain text =>
    if text = "" || CoreScalar.isNullWord text then return none
    else some <$> decode dialect tree
  | .tagged tag (.untyped .plain text) =>
    if tag ≠ .null then some <$> decode dialect tree
    else if CoreScalar.isNullWord text then return none
    else .fail (.invalidValue (.string text) "null")
  | _ => some <$> decode dialect tree

def list (decode : Decoder α) : Decoder (List α) := fun dialect tree => do
  match ← tree.follow with
  | .seq items closed | .tagged _ (.seq items closed) =>
    let values ← items.mapM (decode dialect)
    requireClosed closed
    return values
  | other => if isEmptyScalar other then return [] else .fail (other.mismatch "a sequence")

/-- The name that stands before a value; in JSON text nothing but a text can stand there. -/
def key : Decoder String := fun dialect tree =>
  match dialect, tree with
  | .json, .string (some name) => return name
  | .json, _ => .fail .syntaxError
  | _, _ => string dialect tree

/-- Entries under any names; the last entry of a name counts. -/
def dictionary (decode : Decoder α) : Decoder (Dictionary α) := fun dialect tree => do
  match ← tree.follow with
  | .map entries closed | .tagged _ (.map entries closed) =>
    let result ← entries.foldlM (fun result (name, value) => do
      let name ← key dialect name
      let value ← decode dialect value
      return result.insert name value) Dictionary.empty
    requireClosed closed
    return result
  | other => if isEmptyScalar other then return ∅ else .fail (other.mismatch "a map")

/-- The alternative of a name. -/
def pick (options : List (String × α)) (name : String) : Reading α :=
  match options.find? (·.1 == name) with
  | some (_, value) => return value
  | none => .fail (.unknownVariant name (options.map (·.1)))

/-- The name of an alternative, standing alone. -/
def variantName (options : List (String × α)) : Decoder α := fun _ tree => do
  match ← tree.follow with
  | .string (some name) | .untyped _ name | .tagged _ (.untyped _ name) => pick options name
  | other => .fail (other.mismatch "variant identifier")

private def isNullScalar : Tree → Bool
  | .untyped .plain text => text = "" || CoreScalar.isNullWord text
  | _ => false

/-- One of a list of names. A name may also stand before a null in a map of one entry, and in YAML
as the tag of nothing. -/
def oneOf (options : List (String × α)) : Decoder α := fun dialect tree => do
  match dialect, ← tree.follow with
  | _, .string (some name) => pick options name
  | .json, .map ((name, value) :: rest) closed =>
    let chosen ← pick options (← key .json name)
    match value with
    | .null => requireClosed (closed && rest.isEmpty)
    | other => .fail (other.mismatch "unit")
    return chosen
  | .json, _ => .fail .syntaxError
  | .whole, .map [(name, value)] _ =>
    let chosen ← variantName options .whole name
    match value with
    | .null | .map [] _ => return chosen
    | other => .fail (other.mismatch "unit")
  | .whole, .map _ _ => .fail (.invalidValue .map "map with a single key")
  | .whole, other => .fail (other.mismatch "string or map")
  | .yaml, .untyped _ name => pick options name
  | .yaml, .tagged tag content =>
    match tag.localName?, content with
    | some name, _ =>
      let chosen ← pick options name
      if isNullScalar content then return chosen
      else .fail (content.mismatch "unit")
    | none, .untyped _ name => pick options name
    | none, _ => .fail (content.mismatch "a YAML tag starting with '!'")
  | .yaml, other => .fail (other.mismatch "a YAML tag starting with '!'")

end Decoder
end TypeGraph
