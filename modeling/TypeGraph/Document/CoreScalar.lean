import TypeGraph.Numeral

/-! The types that the look of a bare scalar gives it: null, booleans, whole numbers in four bases,
decimal fractions, and text for all the rest. -/
namespace TypeGraph.CoreScalar

def isNullWord (text : String) : Bool := ["null", "Null", "NULL", "~"].contains text

def bool? (text : String) : Option Bool :=
  if ["true", "True", "TRUE"].contains text then some true
  else if ["false", "False", "FALSE"].contains text then some false
  else none

private def digit? (c : Char) : Option Nat :=
  if c.isDigit then some (c.toNat - '0'.toNat)
  else if 'a' ≤ c ∧ c ≤ 'f' then some (c.toNat - 'a'.toNat + 10)
  else if 'A' ≤ c ∧ c ≤ 'F' then some (c.toNat - 'A'.toNat + 10)
  else none

/-- The value of a non-empty run of digits. -/
def digits? (base : Nat) : List Char → Option Nat
  | [] => none
  | cs => cs.foldlM (fun value c => do
      let d ← digit? c
      if d < base then some (value * base + d) else none) 0

private def dropSign : List Char → List Char
  | '+' :: rest | '-' :: rest => rest
  | cs => cs

/-- A zero followed by more digits is a text, as in a postal code. -/
def isPaddedDigits (cs : List Char) : Bool :=
  match dropSign cs with
  | '0' :: rest => !rest.isEmpty && rest.all Char.isDigit
  | _ => false

/-- The magnitude of a whole number without its sign, if it is at most `limit`. -/
private def magnitude? (limit : Nat) (cs : List Char) : Option Nat :=
  let value? := match cs with
    | '0' :: 'x' :: rest => digits? 16 rest
    | '0' :: 'o' :: rest => digits? 8 rest
    | '0' :: 'b' :: rest => digits? 2 rest
    | _ => if isPaddedDigits cs then none else digits? 10 cs
  value?.filter (· ≤ limit)

/-- A whole number from zero to `limit`, perhaps with a plus sign. -/
def natural? (limit : Nat) (text : String) : Option Nat :=
  match text.toList with
  | '+' :: rest => magnitude? limit rest
  | cs => magnitude? limit cs

/-- The `n` of a number `-n` with a minus sign, at most `limit`. -/
def negative? (limit : Nat) (text : String) : Option Nat :=
  match text.toList with
  | '-' :: rest => magnitude? limit rest
  | _ => none

/-- A whole number: one of 64 bits, one that needs up to 128 and has no place here, or none. -/
inductive Whole where
  | fits (value : Numeral)
  | tooLarge
  | none

/-- The largest whole number that is told from other numbers. -/
private def widestNatural : Nat := Nat.pow 2 128 - 1

/-- The largest `n` for which `-n` is told from other numbers. -/
private def widestNegative : Nat := Nat.pow 2 127

def whole (text : String) : Whole :=
  match natural? Numeral.maxNatural text, negative? Numeral.maxNegative text with
  | some n, _ => .fits (.natural n)
  | _, some n => .fits (.negative n)
  | _, _ =>
    if (natural? widestNatural text).isSome || (negative? widestNegative text).isSome then .tooLarge
    else .none

/-- Digits, perhaps with a point among or around them, and perhaps an exponent. -/
private structure Fraction where
  coefficient : Nat
  exponent : Int

private def fraction? (cs : List Char) : Option Fraction := do
  let unsigned := dropSign cs
  let wholeDigits := unsigned.takeWhile Char.isDigit
  let rest := unsigned.dropWhile Char.isDigit
  let (places, rest) := match rest with
    | '.' :: more => (more.takeWhile Char.isDigit, more.dropWhile Char.isDigit)
    | _ => ([], rest)
  let coefficient ← digits? 10 (wholeDigits ++ places)
  let exponent ← match rest with
    | [] => some (0 : Int)
    | e :: more =>
      if e = 'e' ∨ e = 'E' then do
        let size ← digits? 10 (dropSign more)
        some (if more.head? = some '-' then -(size : Int) else size)
      else none
  some ⟨coefficient, exponent - places.length⟩

/-- Half a unit in the last place above the largest double: from here on, rounding is to infinity. -/
private def overflow : Nat := Nat.pow 2 1024 - Nat.pow 2 970

/-- The double next to the fraction, unless that is an infinity. -/
private def Fraction.finite? (fraction : Fraction) : Option Float :=
  if fraction.coefficient = 0 then some 0.0
  else
    let point : Int := (Nat.toDigits 10 fraction.coefficient).length + fraction.exponent
    if point < -400 then some 0.0
    else if point > 309 then none
    else
      let size := fraction.exponent.natAbs
      let below := fraction.exponent < 0
      let small := if below then fraction.coefficient < overflow * Nat.pow 10 size
        else fraction.coefficient * Nat.pow 10 size < overflow
      if small then some (Float.ofScientific fraction.coefficient below size) else none

/-- A number with a point or an exponent, a named infinity, or no number. -/
def float? (text : String) : Option Float :=
  let cs := text.toList
  let unsigned := match cs with
    | '+' :: rest => rest
    | _ => cs
  if cs.head? = some '+' ∧ (unsigned.head? = some '+' ∨ unsigned.head? = some '-') then none
  else
    let word := String.ofList unsigned
    if [".inf", ".Inf", ".INF"].contains word then some (1.0 / 0.0)
    else if ["-.inf", "-.Inf", "-.INF"].contains text then some (-1.0 / 0.0)
    else if [".nan", ".NaN", ".NAN"].contains text then some (0.0 / 0.0)
    else do
      let value ← (← fraction? unsigned).finite?
      some (if unsigned.head? = some '-' then -value else value)

end TypeGraph.CoreScalar
