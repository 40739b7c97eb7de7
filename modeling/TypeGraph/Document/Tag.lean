/-! Tags: what an author says that a part of a document is. -/
namespace TypeGraph

/-- A tag as octets, which need not be those of a text. -/
structure Tag where
  octets : List UInt8
  deriving DecidableEq, Repr

namespace Tag

def ofString (text : String) : Tag := ⟨text.toUTF8.toList⟩

/-- The text that the octets spell. -/
def text? (tag : Tag) : Option String := String.fromUTF8? ⟨tag.octets.toArray⟩

/-- Local tags start with an exclamation mark and mean what their reader makes of them. -/
def isLocal (tag : Tag) : Bool := tag.octets.head? = some '!'.toUInt8

/-- The name behind the mark of a local tag; the lone mark is its own name. -/
def localName? (tag : Tag) : Option String :=
  if tag.isLocal then
    match tag.octets with
    | [_] => tag.text?
    | octets => text? ⟨octets.drop 1⟩
  else none

private def core (name : String) : Tag := ofString ("tag:yaml.org,2002:" ++ name)

def null : Tag := core "null"

def bool : Tag := core "bool"

def int : Tag := core "int"

def float : Tag := core "float"

end Tag
end TypeGraph
