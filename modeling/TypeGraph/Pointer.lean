import TypeGraph.Json

/-! Pointers into JSON documents: a path of keys and positions, each behind a slash. -/
namespace TypeGraph

/-- The path from the root of a document to one of its values. -/
abbrev Pointer := List String

namespace Pointer

/-- Put a text for a character, wherever it stands. -/
def replace (char : Char) (text key : String) : String :=
  String.ofList (key.toList.flatMap fun c => if c = char then text.toList else [c])

/-- A slash inside a key would end it, so it is written `~1`, and the tilde `~0`. Tildes are replaced
first, since there are new ones when the slashes have been. -/
def escape (key : String) : String := replace '/' "~1" (replace '~' "~0" key)

def text (pointer : Pointer) : String :=
  String.join (pointer.map fun key => "/" ++ escape key)

end Pointer
end TypeGraph
