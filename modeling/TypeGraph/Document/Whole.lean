import TypeGraph.Document.Shape

/-! Reading a part of a document whole, before anything in it is decoded. Here every container and
every number counts, also in members that nobody reads, and bare YAML scalars get the types that
their looks give them. -/
namespace TypeGraph

namespace Tree

/-- The typed reading of an untagged scalar; a whole number too large for any type is refused. -/
def resolve (style : ScalarStyle) (value : String) : Except Problem Tree :=
  match style with
  | .literal | .quoted => .ok (text value)
  | .plain =>
    if value = "" || CoreScalar.isNullWord value then .ok null
    else
      match CoreScalar.bool? value, CoreScalar.whole value with
      | some b, _ => .ok (bool b)
      | none, .fits n => .ok (number (some n))
      | none, .tooLarge => .error .syntaxError
      | none, .none =>
        if CoreScalar.isPaddedDigits value.toList then .ok (text value)
        else match CoreScalar.float? value with
          | some x => .ok (number (some (.float x)))
          | none => .ok (text value)

/-- The reading of a scalar under a tag: the core tags force a type, other public tags leave the
text, and local tags have no place here unless they are no texts, when they count for nothing. -/
def resolveTagged (tag : Tag) (style : ScalarStyle) (value : String) : Except Problem Tree :=
  let forced := fun reading : Option Tree =>
    match reading with
    | some tree => .ok tree
    | none => .error .syntaxError
  if tag = .bool then forced ((CoreScalar.bool? value).map bool)
  else if tag = .int then
    match CoreScalar.whole value with
    | .fits n => .ok (number (some n))
    | .tooLarge | .none => .error .syntaxError
  else if tag = .float then
    forced ((CoreScalar.float? value).map fun x => number (some (.float x)))
  else if tag = .null then
    if CoreScalar.isNullWord value then .ok null else .error .syntaxError
  else if tag.localName?.isSome then .error .syntaxError
  else if tag.isLocal then resolve style value
  else .ok (text value)

/-- Room for one container less, if there is room for one. -/
def enter (room : Nat) : Reading Nat :=
  match room with
  | 0 => .fail .syntaxError
  | room + 1 => return room

mutual

/-- The tree with all its scalars typed and its aliases followed, if `room` is enough for the
containers in it. -/
def readWhole (room : Nat) : Tree → Reading Tree
  | broken | number none | string none => .fail .syntaxError
  | null => return null
  | bool value => return bool value
  | number (some value) => return number (some value)
  | string (some value) => return text value
  | untyped style value => liftM (resolve style value)
  | tagged tag (untyped style value) => liftM (resolveTagged tag style value)
  | tagged tag content =>
    if tag.localName?.isSome then .fail .syntaxError else content.readWhole room
  | aliasOf content => do
    Reading.spend
    content.readWhole room
  | seq items closed => do
    let room ← enter room
    let items ← readItems room items
    Decoder.requireClosed closed
    return seq items true
  | map entries closed => do
    let room ← enter room
    let entries ← readEntries room entries
    Decoder.requireClosed closed
    return map entries true

def readItems (room : Nat) : List Tree → Reading (List Tree)
  | [] => return []
  | item :: rest => return (← item.readWhole room) :: (← readItems room rest)

def readEntries (room : Nat) : List (Tree × Tree) → Reading (List (Tree × Tree))
  | [] => return []
  | (key, value) :: rest =>
    return (← key.readWhole room, ← value.readWhole room) :: (← readEntries room rest)

end

end Tree
end TypeGraph
