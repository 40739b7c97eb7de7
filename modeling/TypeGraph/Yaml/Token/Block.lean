import TypeGraph.Yaml.Cursor

/-! Scalars in indented blocks, with or without their line breaks. -/
namespace TypeGraph.Yaml.Block

/-- What becomes of the breaks at the end of a block. -/
inductive Chomping where
  | strip
  | clip
  | keep
  deriving DecidableEq

/-- The marks behind the indicator: how to end the block, and how far it is indented, in either
order. -/
structure Header where
  chomping : Chomping := .clip
  increment : Option Nat := none

private def chomping? (cursor : Cursor) : Option Chomping :=
  if cursor.sees '+' then some .keep
  else if cursor.sees '-' then some .strip
  else none

private def digit? (cursor : Cursor) : Option Nat :=
  (cursor.head?.filter Char.isDigit).map fun c => c.toNat - '0'.toNat

/-- Read the header. An indentation of zero is refused. -/
def Header.scan (cursor : Cursor) : Option (Header × Cursor) :=
  match chomping? cursor, digit? cursor with
  | some chomping, _ =>
    match digit? cursor.step with
    | some 0 => none
    | some n => some (⟨chomping, some n⟩, cursor.skip 2)
    | none => some (⟨chomping, none⟩, cursor.step)
  | none, some 0 => none
  | none, some n =>
    match chomping? cursor.step with
    | some chomping => some (⟨chomping, some n⟩, cursor.skip 2)
    | none => some (⟨.clip, some n⟩, cursor.step)
  | none, none => some ({}, cursor)

/-- Empty lines and the indentation of the first line that is not empty. While `indent` is unknown
all blanks count as indentation, and `widest` is the most that were seen. -/
def emptyLines (indent : Option Nat) (fuel : Nat) (widest : Nat) (breaks : List Char)
    (cursor : Cursor) : Option (Nat × List Char × Cursor) :=
  match fuel with
  | 0 => none
  | fuel + 1 =>
    let room := indent.map (· - cursor.column)
    let blanks := (cursor.rest.takeWhile (· = ' ')).length
    let cursor := cursor.skip (room.elim blanks (min · blanks))
    let widest := max widest cursor.column
    if indent.all (cursor.column < ·) && cursor.sees '\t' then none
    else
      match cursor.rest with
      | c :: _ =>
        if isBreak c then emptyLines indent fuel widest (c :: breaks) cursor.step
        else some (widest, breaks.reverse, cursor)
      | [] => some (widest, breaks.reverse, cursor)

/-- The lines of a block. `line` is the break after the line before, `empty` those of the empty
lines since, and `led` says whether that line started with a blank. When folding, a single line
feed between two lines that start without blanks reads as a blank, or as nothing beside empty
lines. -/
def lines (literal : Bool) (indent : Nat) (fuel : Nat) (text : String) (line empty : List Char)
    (led : Bool) (cursor : Cursor) : Option (String × List Char × List Char × Cursor) :=
  match fuel with
  | 0 => none
  | fuel + 1 =>
    if cursor.column ≠ indent || cursor.atEnd then some (text, line, empty, cursor)
    else do
      let leads := cursor.seesAny isBlank
      let folded := !literal && line = ['\n'] && !led && !leads
      let joint :=
        if folded then if empty.isEmpty then [' '] else []
        else line
      let (run, after) := cursor.span (!isBreak ·)
      let text := text ++ String.ofList (joint ++ empty ++ run)
      let line := after.rest.take 1
      let (_, empty, next) ← emptyLines (some indent) (after.ahead + 1) 0 [] after.step
      lines literal indent fuel text line empty leads next

/-- The text of a block whose indicator is ahead, inside a block that is indented to `outer`. -/
def scan (literal : Bool) (outer : Int) (cursor : Cursor) : Option (String × Cursor) := do
  let (header, cursor) ← Header.scan cursor.step
  let cursor ← cursor.finishLine
  let least := max (outer + 1).toNat 1
  let fixed := header.increment.map fun n => (max outer 0).toNat + n
  let size := cursor.ahead + 1
  let (widest, empty, cursor) ← emptyLines fixed size 0 [] cursor
  let indent := fixed.getD (max widest least)
  let (text, line, empty, cursor) ← lines literal indent size "" [] empty false cursor
  let tail := match header.chomping with
    | .strip => []
    | .clip => line
    | .keep => line ++ empty
  return (text ++ String.ofList tail, cursor)

end TypeGraph.Yaml.Block
