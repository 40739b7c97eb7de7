import TypeGraph.Json.Token
import TypeGraph.Document.Record

/-! Reading JSON text into a tree. Text that is no JSON still has a tree: that of everything up to
the place where it breaks. -/
namespace TypeGraph.Json

/-- A container that is being read, its parts so far in reverse. -/
inductive Frame where
  | array (items : List Tree)
  /-- The object waits for the value of `key`. -/
  | object (entries : List (Tree × Tree)) (key : Tree)

/-- What may come next. -/
inductive Expect where
  /-- A value, or at once the end of an array that has just begun. -/
  | value (orEnd : Bool)
  /-- A key of an object with these entries, or at once the end of one that has just begun. -/
  | key (entries : List (Tree × Tree)) (orEnd : Bool)
  /-- The colon after a key. -/
  | colon (entries : List (Tree × Tree)) (key : Tree)
  /-- After an item of an array: a comma or the end. -/
  | moreItems (items : List Tree)
  /-- After an entry of an object: a comma or the end. -/
  | moreEntries (entries : List (Tree × Tree))
  /-- Nothing: the root is complete. -/
  | nothing (root : Tree)

/-- Put a finished value where its container waits for it. -/
def place (value : Tree) : List Frame → Expect × List Frame
  | [] => (.nothing value, [])
  | .array items :: frames => (.moreItems (value :: items), frames)
  | .object entries key :: frames => (.moreEntries ((key, value) :: entries), frames)

/-- The root when the text breaks inside `value`: every container around it stays open. -/
def breakOff (value : Tree) : List Frame → Tree
  | [] => value
  | .array items :: frames => breakOff (.seq (value :: items).reverse false) frames
  | .object entries key :: frames =>
    breakOff (.map ((key, value) :: entries).reverse false) frames

private def openEntries (entries : List (Tree × Tree)) : Tree := .map entries.reverse false

/-- The tree of a text, and whether anything but blanks follows it. -/
structure Text where
  root : Tree
  trailing : Bool

/-- Build the tree from tokens, one at a time. -/
def Text.build : Expect → List Frame → List Token → Text
  | .nothing root, _, rest => ⟨root, !rest.isEmpty⟩
  | .value orEnd, frames, token :: rest =>
    match token with
    | .scalar value =>
      let (expect, frames) := place value frames
      build expect frames rest
    | .openBracket => build (.value true) (.array [] :: frames) rest
    | .openBrace => build (.key [] true) frames rest
    | .closeBracket =>
      match orEnd, frames with
      | true, .array items :: frames =>
        let (expect, frames) := place (.seq items.reverse true) frames
        build expect frames rest
      | _, frames => ⟨breakOff .broken frames, false⟩
    | _ => ⟨breakOff .broken frames, false⟩
  | .value _, frames, [] => ⟨breakOff .broken frames, false⟩
  | .key entries orEnd, frames, token :: rest =>
    match token, orEnd with
    | .scalar (.string name), _ => build (.colon entries (.string name)) frames rest
    | .closeBrace, true =>
      let (expect, frames) := place (.map entries.reverse true) frames
      build expect frames rest
    | _, _ => ⟨breakOff (openEntries entries) frames, false⟩
  | .key entries _, frames, [] => ⟨breakOff (openEntries entries) frames, false⟩
  | .colon entries key, frames, .colon :: rest =>
    build (.value false) (.object entries key :: frames) rest
  | .colon entries key, frames, _ =>
    ⟨breakOff (openEntries ((key, .broken) :: entries)) frames, false⟩
  | .moreItems items, frames, .comma :: rest => build (.value false) (.array items :: frames) rest
  | .moreItems items, frames, .closeBracket :: rest =>
    let (expect, frames) := place (.seq items.reverse true) frames
    build expect frames rest
  | .moreItems items, frames, _ => ⟨breakOff (.seq items.reverse false) frames, false⟩
  | .moreEntries entries, frames, .comma :: rest => build (.key entries false) frames rest
  | .moreEntries entries, frames, .closeBrace :: rest =>
    let (expect, frames) := place (.map entries.reverse true) frames
    build expect frames rest
  | .moreEntries entries, frames, _ => ⟨breakOff (openEntries entries) frames, false⟩

def Text.ofString (text : String) : Text :=
  build (.value false) [] (Token.scan text.toList)

/-- Decode a text as it is read: the first problem of the text wins, be it one of shape or of
syntax, and nothing may follow the value. -/
def decodeText {α : Type} (decode : Decoder α) (text : String) : Except Problem α := do
  let read := Text.ofString text
  let value ← decode.run .json read.root 0
  if read.trailing then .error .syntaxError else return value

end TypeGraph.Json
