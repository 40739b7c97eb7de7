import TypeGraph.Decimal.Shortest

/-! Numbers as documents hold them: whole numbers of 64 bits, and doubles for the rest. -/
namespace TypeGraph

inductive Numeral where
  /-- A whole number from zero up. -/
  | natural (n : Nat)
  /-- The whole number `-n`. -/
  | negative (n : Nat)
  | float (x : Float)
  deriving Inhabited

namespace Numeral

/-- The largest natural numeral. -/
def maxNatural : Nat := UInt64.size - 1

/-- The largest `n` for which `-n` is a whole numeral. -/
def maxNegative : Nat := UInt64.size / 2

/-- How a diagnostic speaks of the number. -/
def describe : Numeral → String
  | natural n => s!"integer `{n}`"
  | negative n => s!"integer `-{n}`"
  | float x => "floating point `" ++ Decimal.textOfFloat x ++ "`"

/-- Take digits into `acc` as long as the result fits a natural numeral; the digits after that are
returned as they are. -/
def takeDigits (acc : Nat) : List Nat → Nat × List Nat
  | [] => (acc, [])
  | d :: rest =>
    if acc * 10 + d ≤ maxNatural then takeDigits (acc * 10 + d) rest else (acc, d :: rest)

private def tenTo (n : Nat) : Float := Float.ofScientific 1 false n

/-- `x / 10 ^ n`, at most 308 powers at a time. -/
private def divideByTen (x : Float) (n : Nat) : Float :=
  if n ≤ 308 then x / tenTo n
  else if x == 0.0 then x
  else divideByTen (x / tenTo 308) (n - 308)
termination_by n

/-- The double next to `significand · 10 ^ exponent`, or nothing beyond the largest one. -/
def floatOfParts? (significand : Nat) (exponent : Int) : Option Float :=
  let x := significand.toUInt64.toFloat
  if exponent < 0 then some (divideByTen x exponent.natAbs)
  else if exponent ≤ 308 then
    let y := x * tenTo exponent.natAbs
    if y.isInf then none else some y
  else if x == 0.0 then some x
  else none

/-- The written parts of a number: its sign, the digits before and after the point, and the
exponent with its sign. -/
structure Parts where
  negative : Bool := false
  whole : List Nat
  fraction : Option (List Nat) := none
  exponent : Option (Bool × List Nat) := none
  deriving DecidableEq, Repr

/-- Exponents from here on leave the range of doubles whatever they are applied to. -/
private def exponentLimit : Nat := UInt32.size / 2 - 1

/-- The value of a written number. Digits that do not fit 64 bits only move the point, and a
number too large for a double has no value. -/
def ofParts? (parts : Parts) : Option Numeral :=
  let (significand, dropped) := takeDigits 0 parts.whole
  let signed := fun x : Float => if parts.negative then -x else x
  match parts.fraction, parts.exponent with
  | none, none =>
    if dropped.isEmpty && !parts.negative then some (natural significand)
    else if dropped.isEmpty && 0 < significand && significand ≤ maxNegative then
      some (negative significand)
    else (floatOfParts? significand dropped.length).map (float ∘ signed)
  | fraction, exponent =>
    let after := fraction.getD []
    let (significand, ignored) :=
      match fraction with
      | some digits => takeDigits significand digits
      | none => (significand, [])
    let start : Int := (dropped.length : Int) - ((after.length - ignored.length : Nat) : Int)
    match exponent with
    | none => (floatOfParts? significand start).map (float ∘ signed)
    | some (minus, digits) =>
      let size := digits.foldl (fun acc d => acc * 10 + d) 0
      if size ≤ exponentLimit then
        let final := if minus then start - size else start + size
        (floatOfParts? significand final).map (float ∘ signed)
      else if significand ≠ 0 && !minus then none
      else some (float (signed 0.0))

end Numeral
end TypeGraph
