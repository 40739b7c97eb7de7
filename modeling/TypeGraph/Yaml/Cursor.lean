/-! Walking through YAML text by character, line and column. -/
namespace TypeGraph.Yaml

/-- Characters that end a line; the other spellings of a line end are made line feeds first. -/
def isBreak (c : Char) : Bool := c = '\n' || c = '\u2028' || c = '\u2029'

/-- Blanks within a line. -/
def isBlank (c : Char) : Bool := c = ' ' || c = '\t'

/-- Characters of names: of anchors, of directives, and in tags. -/
def isWord (c : Char) : Bool := c.isAlphanum || c = '-' || c = '_'

/-- Characters that may stand in YAML text at all. -/
def isAllowed (c : Char) : Bool :=
  let n := c.toNat
  n = 0x09 || n = 0x0A || n = 0x0D || (0x20 ≤ n && n ≤ 0x7E) || n = 0x85
    || (0xA0 ≤ n && n ≤ 0xFFFD) || 0x10000 ≤ n

/-- Make a line feed of a carriage return, of one with its line feed, and of a next-line control. -/
def unifyBreaks : List Char → List Char
  | '\r' :: '\n' :: rest => '\n' :: unifyBreaks rest
  | '\r' :: rest => '\n' :: unifyBreaks rest
  | '\u0085' :: rest => '\n' :: unifyBreaks rest
  | c :: rest => c :: unifyBreaks rest
  | [] => []

/-- The text ahead and where it starts. -/
structure Cursor where
  rest : List Char
  /-- Characters ahead. -/
  ahead : Nat
  /-- Octets behind. -/
  index : Nat := 0
  line : Nat := 0
  column : Nat := 0

namespace Cursor

def ofChars (cs : List Char) : Cursor := { rest := cs, ahead := cs.length }

def head? (cursor : Cursor) : Option Char := cursor.rest.head?

def atEnd (cursor : Cursor) : Bool := cursor.rest.isEmpty

/-- Whether the character ahead is `c`. -/
def sees (cursor : Cursor) (c : Char) : Bool := cursor.head? = some c

def seesAny (cursor : Cursor) (p : Char → Bool) : Bool := cursor.head?.any p

/-- Whether blanks, a break or the end stand `n` characters ahead. -/
def gapAfter (cursor : Cursor) (n : Nat) : Bool :=
  match cursor.rest.drop n with
  | [] => true
  | c :: _ => isBlank c || isBreak c

/-- Whether a blank stands `n` characters ahead. -/
def blankAfter (cursor : Cursor) (n : Nat) : Bool := (cursor.rest.drop n).head?.any isBlank

/-- Whether a line ends here. -/
def atLineEnd (cursor : Cursor) : Bool := cursor.rest.head?.all isBreak

/-- Go over one character. -/
def step (cursor : Cursor) : Cursor :=
  match cursor.rest with
  | [] => cursor
  | c :: rest =>
    let index := cursor.index + c.utf8Size
    if isBreak c then ⟨rest, cursor.ahead - 1, index, cursor.line + 1, 0⟩
    else ⟨rest, cursor.ahead - 1, index, cursor.line, cursor.column + 1⟩

/-- Go over `n` characters. -/
def skip (cursor : Cursor) : Nat → Cursor
  | 0 => cursor
  | n + 1 => cursor.step.skip n

/-- The longest run ahead of characters with a property, and what follows it. -/
def span (cursor : Cursor) (p : Char → Bool) : List Char × Cursor :=
  let run := cursor.rest.takeWhile p
  (run, cursor.skip run.length)

def skipWhile (cursor : Cursor) (p : Char → Bool) : Cursor := (cursor.span p).2

/-- Blanks and a comment up to the end of the line; anything else there is refused. -/
def finishLine (cursor : Cursor) : Option Cursor :=
  let cursor := cursor.skipWhile isBlank
  let cursor := if cursor.sees '#' then cursor.skipWhile (!isBreak ·) else cursor
  if cursor.atLineEnd then some cursor.step else none

/-- Whether a line starts here with three times `c` and a gap. -/
def seesMarker (cursor : Cursor) (c : Char) : Bool :=
  cursor.column = 0 && cursor.rest.take 3 = [c, c, c] && cursor.gapAfter 3

/-- Whether a line starts here that begins or ends a document. -/
def seesDocumentMarker (cursor : Cursor) : Bool := cursor.seesMarker '-' || cursor.seesMarker '.'

end Cursor

/-- How breaks between two pieces of a scalar read: a single line feed as a blank, and of several
all but the first are kept. Other breaks stay as they are. -/
def foldBreaks : List Char → List Char
  | ['\n'] => [' ']
  | '\n' :: more => more
  | breaks => breaks

end TypeGraph.Yaml
