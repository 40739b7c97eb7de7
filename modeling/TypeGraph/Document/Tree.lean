import TypeGraph.Document.Tag
import TypeGraph.Json
import TypeGraph.Numeral

/-! What a document holds before any meaning is given to it. A tree keeps the order of the text and
marks the place where the text breaks off, so that whoever walks it meets the first problem of the
text first. -/
namespace TypeGraph

/-- How a scalar without a fixed type was written. -/
inductive ScalarStyle where
  /-- Bare text, whose look may give it a type. -/
  | plain
  /-- A block that keeps its line breaks. -/
  | literal
  /-- Quotes, or a folded block. -/
  | quoted
  deriving DecidableEq, Repr

inductive Tree where
  /-- The text is no document from here on. -/
  | broken
  | null
  | bool (value : Bool)
  /-- A number; one beyond the range of doubles has no value. -/
  | number (value : Option Numeral)
  /-- A text; escapes that stand for no characters leave it without a value. -/
  | string (value : Option String)
  /-- A scalar whose type depends on who reads it. -/
  | untyped (style : ScalarStyle) (text : String)
  | tagged (tag : Tag) (content : Tree)
  /-- A tree that stands in another place too. -/
  | aliasOf (content : Tree)
  /-- A sequence; when not `closed`, the text breaks after the last item. -/
  | seq (items : List Tree) (closed : Bool)
  /-- Entries in the order of the text; when not `closed`, it breaks after the last of them. -/
  | map (entries : List (Tree × Tree)) (closed : Bool)
  deriving Inhabited

/-- The rules a tree is read by. -/
inductive Dialect where
  /-- JSON text, decoded while it is read. -/
  | json
  /-- YAML text, decoded while it is read. -/
  | yaml
  /-- A part of either that was read whole before it is decoded. -/
  | whole
  deriving DecidableEq, Repr

/-- Containers that may stand in each other in parts read whole. -/
def Dialect.depthLimit : Dialect → Nat
  | .json | .whole => 127
  | .yaml => 128

namespace Tree

def text (value : String) : Tree := string (some value)

mutual

/-- The tree of a JSON value. -/
def ofJson : Json → Tree
  | .null => null
  | .bool value => bool value
  | .num value => number (some (.natural value))
  | .str value => text value
  | .arr items => seq (ofItems items) true
  | .obj members => map (ofMembers members) true

def ofItems : List Json → List Tree
  | [] => []
  | item :: rest => ofJson item :: ofItems rest

def ofMembers : List (String × Json) → List (Tree × Tree)
  | [] => []
  | (name, value) :: rest => (text name, ofJson value) :: ofMembers rest

end

mutual

/-- Whether the text of this tree is whole, its numbers and texts having a value or not. -/
def isWhole : Tree → Bool
  | broken => false
  | null | bool _ | number _ | string _ | untyped _ _ => true
  | tagged _ content | aliasOf content => content.isWhole
  | seq items closed => areWhole items && closed
  | map entries closed => entriesAreWhole entries && closed

def areWhole : List Tree → Bool
  | [] => true
  | item :: rest => item.isWhole && areWhole rest

def entriesAreWhole : List (Tree × Tree) → Bool
  | [] => true
  | (key, value) :: rest => key.isWhole && value.isWhole && entriesAreWhole rest

end

end Tree
end TypeGraph
