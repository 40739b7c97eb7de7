/-! The fewest decimal digits that read back as a given binary floating-point number. -/
namespace TypeGraph

/-- The value `coefficient · 10 ^ exponent`. -/
structure Decimal where
  coefficient : Nat
  exponent : Int
  deriving DecidableEq, Repr

namespace Decimal

/-- The same value without zeros at the end of its coefficient; `fuel` bounds their number. -/
def trim (fuel : Nat) (decimal : Decimal) : Decimal :=
  match fuel with
  | 0 => decimal
  | fuel + 1 =>
    if decimal.coefficient ≠ 0 ∧ decimal.coefficient % 10 = 0 then
      trim fuel ⟨decimal.coefficient / 10, decimal.exponent + 1⟩
    else decimal

/-- A positive binary number `mantissa · 2 ^ exponent`; `lowest` marks the least mantissa of its
exponent, whose lower neighbour is only half as far away as the upper one. -/
structure Binary where
  mantissa : Nat
  exponent : Int
  lowest : Bool

/-- `n / d` compared with `m / e`. -/
private def fractionLe (n d m e : Nat) : Bool := n * e ≤ m * d

private def fractionLt (n d m e : Nat) : Bool := n * e < m * d

/-- Powers of ten and two as fractions with natural parts. -/
private def power (base : Nat) (exponent : Int) : Nat × Nat :=
  if exponent < 0 then (1, Nat.pow base exponent.natAbs) else (Nat.pow base exponent.natAbs, 1)

private def digitCount (n : Nat) : Nat := (Nat.toDigits 10 n).length

/-- The grid multiples next to the value that read back as it, nearest first. The value is
`4 · mantissa` quarters of its unit in the last place; what lies between the midpoints to its
neighbours reads back, and the midpoints themselves do when the mantissa is even. -/
private def candidates (value : Binary) (grid : Int) : List Nat :=
  let (unitNum, unitDen) := power 2 (value.exponent - 2)
  let (gridNum, gridDen) := power 10 grid
  let exact := 4 * value.mantissa
  let below := if value.lowest then exact - 1 else exact - 2
  let above := exact + 2
  let scaledDen := unitDen * gridNum
  let scale := fun quarters => quarters * unitNum * gridDen
  let inside := fun c =>
    if value.mantissa % 2 = 0 then
      fractionLe (scale below) scaledDen c 1 && fractionLe c 1 (scale above) scaledDen
    else
      fractionLt (scale below) scaledDen c 1 && fractionLt c 1 (scale above) scaledDen
  let floor := scale exact / scaledDen
  let remainder := scale exact % scaledDen
  let nearFirst := if 2 * remainder ≤ scaledDen then [floor, floor + 1] else [floor + 1, floor]
  nearFirst.filter fun c => c ≠ 0 && inside c

/-- Seventeen digits always suffice to tell a double from its neighbours. -/
def maxDigits : Nat := 17

/-- Moving the point this far right leaves digits before it in every positive double. -/
def pointShift : Nat := 400

/-- The first grid, from coarse to fine, with a multiple that reads back gives the digits. -/
def ofBinary (value : Binary) : Decimal :=
  let (unitNum, unitDen) := power 2 value.exponent
  let raised := value.mantissa * unitNum * Nat.pow 10 pointShift / unitDen
  let magnitude : Int := (digitCount raised : Int) - (pointShift : Int)
  let found := (List.range maxDigits).findSome? fun n =>
    let grid := magnitude - ((n + 1 : Nat) : Int)
    (candidates value grid).head?.map fun c => Decimal.mk c grid
  trim (maxDigits + 1) (found.getD ⟨0, 0⟩)

/-- The parts of a finite double other than zero, its sign left out. -/
def Binary.ofFloat (x : Float) : Binary :=
  let bits := x.toBits.toNat
  let fraction : Nat := bits % Nat.pow 2 52
  let biased : Nat := bits / Nat.pow 2 52 % Nat.pow 2 11
  if biased = 0 then ⟨fraction, -1074, false⟩
  else ⟨Nat.pow 2 52 + fraction, (biased : Int) - 1075, fraction = 0 && biased > 1⟩

private def digits (n : Nat) : List Char := Nat.toDigits 10 n

private def zeros (n : Nat) : List Char := List.replicate n '0'

/-- Positional while the point stands at most four zeros left of the digits and at most sixteen
places right of their start, otherwise one digit, the point and an exponent with its sign. -/
def text (decimal : Decimal) : String :=
  let ds := digits decimal.coefficient
  let point : Int := ds.length + decimal.exponent
  String.ofList <|
    if 0 ≤ decimal.exponent ∧ point ≤ 16 then
      ds ++ zeros decimal.exponent.toNat ++ ".0".toList
    else if 0 < point ∧ point ≤ 16 then
      ds.take point.toNat ++ '.' :: ds.drop point.toNat
    else if -5 < point ∧ point ≤ 0 then
      "0.".toList ++ zeros (-point).toNat ++ ds
    else
      let tail := match ds.drop 1 with
        | [] => []
        | rest => '.' :: rest
      let sign := if 0 < point then '+' else '-'
      ds.take 1 ++ tail ++ 'e' :: sign :: digits (point - 1).natAbs

/-- The text of a finite double; zero keeps its sign. -/
def textOfFloat (x : Float) : String :=
  let bits := x.toBits.toNat
  let sign := if bits / Nat.pow 2 63 = 1 then "-" else ""
  sign ++ if bits % Nat.pow 2 63 = 0 then "0.0" else (ofBinary (.ofFloat x)).text

end Decimal
end TypeGraph
