/-! Where a declaration stands, for the diagnostics that speak about it. -/
namespace TypeGraph

/-- A place in a source: a pointer into its document, or a line with perhaps a column. -/
structure SourceLocation where
  source : String
  /-- Slash-separated path to the declaration inside the document. -/
  pointer : Option String := none
  line : Option UInt32 := none
  column : Option UInt32 := none
  deriving DecidableEq, Repr

/-- A line wins over a pointer; a column counts only with a line. -/
def SourceLocation.display (location : SourceLocation) : String :=
  match location.line, location.column, location.pointer with
  | some line, some column, _ => s!"{location.source}:{line}:{column}"
  | some line, none, _ => s!"{location.source}:{line}"
  | none, _, some pointer => s!"{location.source}#{pointer}"
  | none, _, none => location.source

end TypeGraph
