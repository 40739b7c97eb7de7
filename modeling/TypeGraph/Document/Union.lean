import TypeGraph.Document.Record

/-! Unions told apart by a tag among their members. The tag may stand anywhere, so the other members
are read whole until it is known how to decode them. -/
namespace TypeGraph

/-- Alternatives by the spelling of their tag, each decoded from the members beside it. -/
structure Union (α : Type) where
  title : String
  tag : String
  variants : List (String × Decoder α)
  /-- Containers around the members, that of the union included. -/
  depth : Nat

namespace Union
variable {α : Type}

/-- Take the tag out of the entries; the rest is read whole. -/
def readEntries (union : Union α) (dialect : Dialect) (room : Nat) (chosen : Option (Decoder α)) :
    List (Tree × Tree) → Reading (Option (Decoder α) × List (Tree × Tree))
  | [] => return (chosen, [])
  | (key, value) :: rest => do
    match ← key.readWhole room with
    | .string (some name) =>
      if name = union.tag then
        if chosen.isSome then Reading.fail (.duplicateField union.tag)
        let decode ← Decoder.variantName union.variants dialect value
        readEntries union dialect room (some decode) rest
      else
        let value ← value.readWhole room
        let (chosen, others) ← readEntries union dialect room chosen rest
        return (chosen, (Tree.text name, value) :: others)
    | key =>
      let value ← value.readWhole room
      let (chosen, others) ← readEntries union dialect room chosen rest
      return (chosen, (key, value) :: others)

/-- Decode members with the tag among them, or a sequence that the tag starts. -/
def ofContainer (union : Union α) (dialect : Dialect) (tree : Tree) : Reading α := do
  let room := dialect.depthLimit - union.depth
  match tree with
  | .map entries closed =>
    let (chosen, others) ← union.readEntries dialect room none entries
    Decoder.requireClosed closed
    match chosen with
    | some decode => decode .whole (.map others true)
    | none => .fail (.missingField union.tag)
  | .seq [] closed =>
    Decoder.requireClosed closed
    .fail (.missingField union.tag)
  | .seq (tag :: items) closed =>
    let decode ← Decoder.variantName union.variants dialect tag
    let items ← Tree.readItems room items
    Decoder.requireClosed closed
    decode .whole (.seq items true)
  | other => .fail (other.mismatch s!"internally tagged enum {union.title}")

def decode (union : Union α) : Decoder α := fun dialect tree => do
  match ← tree.follow with
  | .tagged tag content =>
    if tag.localName?.isSome then .fail .syntaxError else union.ofContainer dialect content
  | other => union.ofContainer dialect other

end Union
end TypeGraph
