/-! Sets of characters given as evenly spaced ranges of code points. -/
namespace TypeGraph.Text

/-- The code points `first`, `first + step`, … up to `last`. -/
structure CharRange where
  first : Nat
  last : Nat
  step : Nat := 1
  deriving DecidableEq, Repr

def CharRange.contains (range : CharRange) (code : Nat) : Bool :=
  range.first ≤ code && code ≤ range.last && (code - range.first) % range.step == 0

/-- A character class as a list of ranges. -/
abbrev CharTable := List CharRange

def CharTable.contains (table : CharTable) (c : Char) : Bool :=
  table.any (·.contains c.toNat)

end TypeGraph.Text
