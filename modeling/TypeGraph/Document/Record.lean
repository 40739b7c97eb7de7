import TypeGraph.Document.Whole

/-! Records: named fields, each with its own decoder and its own rule for being left out. A record
is built from its fields in the order in which they are declared, and read from a tree in the order
in which the tree has them. -/
namespace TypeGraph

/-- How the members of a record are told apart: by name, or by position. -/
inductive Layout where
  | named
  | positional
  deriving DecidableEq, Repr

/-- A record of fields that together give an `α`. `State` holds what has been read so far;
`finish` gives the value, or the name of the first declared field that is missing. -/
structure Record (α : Type) where
  State : Type
  names : List String
  start : State
  read : Dialect → String → Tree → State → Reading State
  finish : Layout → State → Except String α

namespace Record
variable {α β : Type}

/-- A single field. It is decoded once; a second member of its name is refused before it is read. -/
def field (name : String) (decode : Decoder α) (missing : Layout → Option α) : Record α where
  State := Option α
  names := [name]
  start := none
  read dialect _ tree
    | some _ => .fail (.duplicateField name)
    | none => some <$> decode dialect tree
  finish layout
    | some value => .ok value
    | none =>
      match missing layout with
      | some value => .ok value
      | none => .error name

/-- A field that must be there. -/
def required (name : String) (decode : Decoder α) : Record α := field name decode fun _ => none

/-- A field that stands for `default` when it is left out. -/
def defaulted (name : String) (decode : Decoder α) (default : α) : Record α :=
  field name decode fun _ => some default

/-- A field that may be null or left out. -/
def optional (name : String) (decode : Decoder α) : Record (Option α) :=
  field name (Decoder.nullable decode) fun _ => some none

/-- A field that may be null, and left out only where members have names. -/
def nullable (name : String) (decode : Decoder α) : Record (Option α) :=
  field name (Decoder.nullable decode) fun
    | .named => some none
    | .positional => none

def map (f : α → β) (record : Record α) : Record β :=
  { record with finish := fun layout state => f <$> record.finish layout state }

/-- The fields of both, those of the first declared first. -/
def both (first : Record α) (second : Record β) : Record (α × β) where
  State := first.State × second.State
  names := first.names ++ second.names
  start := (first.start, second.start)
  read dialect name tree state :=
    if first.names.contains name then
      return (← first.read dialect name tree state.1, state.2)
    else
      return (state.1, ← second.read dialect name tree state.2)
  finish layout state := return (← first.finish layout state.1, ← second.finish layout state.2)

instance : Functor Record where
  map := map

instance : Seq Record where
  seq fields argument := map (fun pair => pair.1 pair.2) (both fields (argument ()))

/-- The declared field that a member's key means. In a part read whole a number counts the declared
fields from zero. -/
def fieldOf? (names : List String) (dialect : Dialect) (key : Tree) :
    Reading (Option String) :=
  let named := fun name : String => if names.contains name then some name else none
  match dialect, key with
  | .whole, .number (some (.natural index)) => return names[index]?
  | .whole, .string (some name) => return named name
  | .whole, other => .fail (other.mismatch "field identifier")
  | _, _ => named <$> Decoder.key dialect key

/-- Read members by name; members of no declared name are stepped over. -/
def readEntries (record : Record α) (dialect : Dialect) (state : record.State) :
    List (Tree × Tree) → Reading record.State
  | [] => return state
  | (key, value) :: rest => do
    match ← fieldOf? record.names dialect key with
    | some name =>
      let state ← record.read dialect name value state
      readEntries record dialect state rest
    | none =>
      Decoder.skip dialect value
      readEntries record dialect state rest

/-- Read items as the fields of `names`; what is left over is returned. -/
def readItems (record : Record α) (dialect : Dialect) (state : record.State) :
    List String → List Tree → Reading (record.State × List Tree)
  | name :: names, item :: items => do
    let state ← record.read dialect name item state
    readItems record dialect state names items
  | _, rest => return (state, rest)

private def counted (n : Nat) : String :=
  if n = 1 then "1 element" else s!"{n} elements"

/-- The value of a record given by its members' names. -/
def ofEntries (record : Record α) (dialect : Dialect) (entries : List (Tree × Tree))
    (closed : Bool) : Reading α := do
  let state ← record.readEntries dialect record.start entries
  Decoder.requireClosed closed
  match record.finish .named state with
  | .ok value => return value
  | .error missing => .fail (.missingField missing)

/-- The value of a record given as the sequence of its fields. More items than fields break the
JSON text they stand in; in a part read whole they are one error of shape. -/
def ofItems (record : Record α) (dialect : Dialect) (title : String) (items : List Tree)
    (closed : Bool) : Reading α := do
  let count := record.names.length
  let (state, rest) ← record.readItems dialect record.start record.names items
  if items.length < count then Decoder.requireClosed closed
  match record.finish .positional state with
  | .error missing =>
    .fail (.invalidLength (record.names.idxOf missing)
      s!"struct {title} with {counted count}")
  | .ok value =>
    if rest.isEmpty then
      Decoder.requireClosed closed
      return value
    else if dialect = .whole then
      .fail (.invalidLength items.length s!"{counted count} in sequence")
    else .fail .syntaxError

/-- Decode a record: from named members, from a sequence where the dialect allows it, or from
nothing in YAML. -/
def decode (record : Record α) (title : String) : Decoder α := fun dialect tree => do
  let tree ← tree.follow
  match tree with
  | .map entries closed | .tagged _ (.map entries closed) =>
    record.ofEntries dialect entries closed
  | .seq items closed =>
    if dialect = .yaml then .fail (tree.mismatch s!"struct {title}")
    else record.ofItems dialect title items closed
  | other =>
    if Decoder.isEmptyScalar other then record.ofEntries dialect [] true
    else .fail (other.mismatch s!"struct {title}")

end Record
end TypeGraph
