import TypeGraph.Yaml.Cursor

/-! Scalars in single or double quotes. -/
namespace TypeGraph.Yaml.Quoted

private def hexValue? (c : Char) : Option Nat :=
  if c.isDigit then some (c.toNat - '0'.toNat)
  else if 'a' ≤ c ∧ c ≤ 'f' then some (c.toNat - 'a'.toNat + 10)
  else if 'A' ≤ c ∧ c ≤ 'F' then some (c.toNat - 'A'.toNat + 10)
  else none

/-- The number of exactly `count` hexadecimal digits at the start. -/
def hexNumber? (count : Nat) (cs : List Char) : Option Nat :=
  if cs.length < count then none
  else (cs.take count).foldlM (fun n c => do return n * 16 + (← hexValue? c)) 0

/-- Escapes of one letter. -/
def letterEscape? (c : Char) : Option Char :=
  match c with
  | '0' => some '\x00'
  | 'a' => some '\x07'
  | 'b' => some '\x08'
  | 't' | '\t' => some '\t'
  | 'n' => some '\n'
  | 'v' => some '\x0b'
  | 'f' => some '\x0c'
  | 'r' => some '\r'
  | 'e' => some '\x1b'
  | ' ' | '"' | '/' | '\\' => some c
  | 'N' => some '\u0085'
  | '_' => some '\u00a0'
  | 'L' => some '\u2028'
  | 'P' => some '\u2029'
  | _ => none

/-- The number of digits after an escape by number. -/
def digitsOf? (c : Char) : Option Nat :=
  match c with
  | 'x' => some 2
  | 'u' => some 4
  | 'U' => some 8
  | _ => none

/-- The character of an escape behind its backslash, and the length of the escape without it. -/
def escape? (cs : List Char) : Option (Char × Nat) :=
  match cs with
  | [] => none
  | c :: rest =>
    match letterEscape? c with
    | some d => some (d, 1)
    | none => do
      let count ← digitsOf? c
      let n ← hexNumber? count rest
      if n > 0x10FFFF || (0xD800 ≤ n && n ≤ 0xDFFF) then none
      else some (Char.ofNat n, count + 1)

/-- How a piece of a quoted scalar ends. -/
inductive PieceEnd where
  /-- Before a gap, the closing quote or the end of the text. -/
  | plain
  /-- Behind a line end that a backslash hides. -/
  | hiddenBreak

/-- Characters up to a gap or the closing quote. -/
def piece (single : Bool) (fuel : Nat) (before : List Char) (cursor : Cursor) :
    Option (List Char × PieceEnd × Cursor) :=
  match fuel, cursor.rest with
  | 0, _ | _, [] => some (before.reverse, .plain, cursor)
  | fuel + 1, c :: rest =>
    if isBlank c || isBreak c then some (before.reverse, .plain, cursor)
    else if single then
      if c = '\'' then
        if rest.head? = some '\'' then piece single fuel ('\'' :: before) (cursor.skip 2)
        else some (before.reverse, .plain, cursor)
      else piece single fuel (c :: before) cursor.step
    else if c = '"' then some (before.reverse, .plain, cursor)
    else if c = '\\' then
      if rest.head?.any isBreak then some (before.reverse, .hiddenBreak, cursor.skip 2)
      else do
        let (d, length) ← escape? rest
        piece single fuel (d :: before) (cursor.skip (length + 1))
    else piece single fuel (c :: before) cursor.step

/-- The gap after a piece: blanks before the first break, and the breaks. -/
def gap (broken : Bool) (fuel : Nat) (blanks breaks : List Char) (cursor : Cursor) :
    List Char × List Char × Cursor :=
  match fuel, cursor.rest with
  | 0, _ | _, [] => (blanks.reverse, breaks.reverse, cursor)
  | fuel + 1, c :: _ =>
    if isBreak c then gap true fuel [] (c :: breaks) cursor.step
    else if isBlank c then gap broken fuel (if broken then blanks else c :: blanks) breaks cursor.step
    else (blanks.reverse, breaks.reverse, cursor)

/-- Pieces and gaps up to the closing quote. No document marker may start a line in between. -/
def pieces (single : Bool) (fuel : Nat) (text : String) (cursor : Cursor) :
    Option (String × Cursor) :=
  match fuel with
  | 0 => none
  | fuel + 1 =>
    if cursor.seesDocumentMarker || cursor.atEnd then none
    else do
      let size := cursor.ahead + 1
      let (run, ending, after) ← piece single size [] cursor
      let text := text ++ String.ofList run
      if after.sees (if single then '\'' else '"') then return (text, after.step)
      match ending with
      | .hiddenBreak =>
        let (_, breaks, next) := gap true size [] [] after
        pieces single fuel (text ++ String.ofList breaks) next
      | .plain =>
        let (blanks, breaks, next) := gap false size [] [] after
        let between := if breaks.isEmpty then blanks else foldBreaks breaks
        pieces single fuel (text ++ String.ofList between) next

/-- The text of a scalar whose opening quote is ahead. -/
def scan (single : Bool) (cursor : Cursor) : Option (String × Cursor) :=
  pieces single (cursor.ahead + 1) "" cursor.step

end TypeGraph.Yaml.Quoted
