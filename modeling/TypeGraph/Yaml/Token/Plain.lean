import TypeGraph.Yaml.Cursor
import TypeGraph.Yaml.Token

/-! Scalars without quotes. They go on over line ends as long as the lines are indented, and end
before a comment, a key's colon, a document marker, and in brackets before the next bracket or
comma. -/
namespace TypeGraph.Yaml.Plain

/-- What was read, where it ends, and whether only a line end stands before that. -/
structure Scan where
  text : String
  cursor : Cursor
  endsLine : Bool

private def isFlowMark (c : Char) : Bool := [',', '[', ']', '\x7b', '\x7d'].contains c

/-- Characters up to a gap or the end of the scalar. In brackets a colon right before a mark is
neither. -/
def piece (context : Context) (fuel : Nat) (before : List Char) (cursor : Cursor) :
    Option (List Char × Cursor) :=
  match fuel, cursor.rest with
  | 0, _ | _, [] => some (before.reverse, cursor)
  | fuel + 1, c :: rest =>
    if isBlank c || isBreak c then some (before.reverse, cursor)
    else if context = .flow && c = ':' && rest.head?.any (fun d => isFlowMark d || d = '?') then none
    else if (c = ':' && cursor.gapAfter 1) || (context = .flow && isFlowMark c) then
      some (before.reverse, cursor)
    else piece context fuel (c :: before) cursor.step

/-- The gap between two pieces. Blanks count unless a break is among them; a tab may not stand
where a following line has to be indented. -/
def gap (indent : Int) (fuel : Nat) (blanks breaks : List Char) (cursor : Cursor) :
    Option (List Char × List Char × Cursor) :=
  match fuel, cursor.rest with
  | 0, _ | _, [] => some (blanks.reverse, breaks.reverse, cursor)
  | fuel + 1, c :: _ =>
    if isBreak c then gap indent fuel [] (c :: breaks) cursor.step
    else if isBlank c then
      if breaks.isEmpty then gap indent fuel (c :: blanks) breaks cursor.step
      else if c = '\t' && cursor.column < indent then none
      else gap indent fuel blanks breaks cursor.step
    else some (blanks.reverse, breaks.reverse, cursor)

/-- Pieces with the gaps between them. `between` is the gap before the cursor, kept only if another
piece follows; `endsLine` says whether there is a break in it. -/
def pieces (context : Context) (indent : Int) (fuel : Nat) (text : String) (between : List Char)
    (endsLine : Bool) (cursor : Cursor) : Option Scan :=
  match fuel with
  | 0 => none
  | fuel + 1 =>
    if cursor.seesDocumentMarker || cursor.sees '#' then some ⟨text, cursor, endsLine⟩
    else do
      let size := cursor.ahead + 1
      let (run, after) ← piece context size [] cursor
      let (text, endsLine) :=
        if run.isEmpty then (text, endsLine)
        else (text ++ String.ofList between ++ String.ofList run, false)
      if !after.seesAny (fun c => isBlank c || isBreak c) then
        return ⟨text, after, endsLine⟩
      let (blanks, breaks, next) ← gap indent size [] [] after
      let between := if breaks.isEmpty then blanks else foldBreaks breaks
      if context = .block && next.column < indent then
        return ⟨text, next, !breaks.isEmpty⟩
      pieces context indent fuel text between (!breaks.isEmpty) next

/-- A plain scalar whose further lines start at column `indent` or right of it. -/
def scan (context : Context) (indent : Int) (cursor : Cursor) : Option Scan :=
  pieces context indent (cursor.ahead + 1) "" [] false cursor

end TypeGraph.Yaml.Plain
