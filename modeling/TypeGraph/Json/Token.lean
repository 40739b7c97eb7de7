import TypeGraph.Document.Tree

/-! The tokens of JSON text. Scanning stops for good at the first character that starts no token. -/
namespace TypeGraph.Json

inductive Token where
  | openBrace
  | closeBrace
  | openBracket
  | closeBracket
  | colon
  | comma
  /-- A null, a boolean, a number or a text. -/
  | scalar (value : Tree)
  /-- No token starts here. -/
  | bad

namespace Token

/-- What a scanner has read of `cs`, and the shorter rest. -/
structure Scanned (α : Type) (cs : List Char) where
  value : α
  rest : List Char
  shorter : rest.length < cs.length

private theorem length_dropWhile_le (p : Char → Bool) (cs : List Char) :
    (cs.dropWhile p).length ≤ cs.length :=
  (List.dropWhile_sublist p).length_le

/-- What is shorter than a text is shorter than one with more in front. -/
private theorem length_lt_append {rest cs : List Char} (front : List Char)
    (shorter : rest.length < cs.length) : rest.length < (front ++ cs).length :=
  Nat.lt_of_lt_of_le shorter (List.sublist_append_right front cs).length_le

private def hexValue? (c : Char) : Option Nat :=
  if c.isDigit then some (c.toNat - '0'.toNat)
  else if 'a' ≤ c ∧ c ≤ 'f' then some (c.toNat - 'a'.toNat + 10)
  else if 'A' ≤ c ∧ c ≤ 'F' then some (c.toNat - 'A'.toNat + 10)
  else none

/-- The code unit of four hexadecimal digits. -/
def unit? (a b c d : Char) : Option Nat := do
  let a ← hexValue? a
  let b ← hexValue? b
  let c ← hexValue? c
  let d ← hexValue? d
  return ((a * 16 + b) * 16 + c) * 16 + d

/-- The characters that a backslash and one more character stand for. -/
def escape? (c : Char) : Option Char :=
  match c with
  | '"' | '\\' | '/' => some c
  | 'b' => some '\x08'
  | 'f' => some '\x0c'
  | 'n' => some '\n'
  | 'r' => some '\r'
  | 't' => some '\t'
  | _ => none

/-- The code units of a text up to its closing quote, after those of `before`, which is reversed.
A character that stands for itself is a unit of its own. -/
def scanUnits (before : List Nat) : (cs : List Char) → Option (Scanned (List Nat) cs)
  | [] => none
  | '"' :: rest => some ⟨before.reverse, rest, Nat.lt_succ_self _⟩
  | '\\' :: 'u' :: a :: b :: c :: d :: rest => do
    let unit ← unit? a b c d
    let found ← scanUnits (unit :: before) rest
    return ⟨found.value, found.rest, length_lt_append ['\\', 'u', a, b, c, d] found.shorter⟩
  | '\\' :: e :: rest => do
    let c ← escape? e
    let found ← scanUnits (c.toNat :: before) rest
    return ⟨found.value, found.rest, length_lt_append ['\\', e] found.shorter⟩
  | c :: rest =>
    if c.toNat < 0x20 ∨ c = '\\' then none
    else do
      let found ← scanUnits (c.toNat :: before) rest
      return ⟨found.value, found.rest, length_lt_append [c] found.shorter⟩

private def isHigh (unit : Nat) : Bool := 0xD800 ≤ unit && unit < 0xDC00

private def isLow (unit : Nat) : Bool := 0xDC00 ≤ unit && unit < 0xE000

/-- The characters of code units: two surrogates together are one, and a lone one is none. -/
def ofUnits? : List Nat → Option (List Char)
  | [] => some []
  | high :: low :: rest =>
    if isHigh high && isLow low then
      (Char.ofNat (0x10000 + (high - 0xD800) * 0x400 + (low - 0xDC00)) :: ·) <$> ofUnits? rest
    else if isHigh high || isLow high then none
    else (Char.ofNat high :: ·) <$> ofUnits? (low :: rest)
  | [unit] => if isHigh unit || isLow unit then none else some [Char.ofNat unit]

private def digitValue (c : Char) : Nat := c.toNat - '0'.toNat

/-- A non-empty run of digits. -/
def scanDigits (cs : List Char) : Option (Scanned (List Nat) cs) :=
  match cs with
  | [] => none
  | c :: rest =>
    if c.isDigit then
      some ⟨digitValue c :: (rest.takeWhile Char.isDigit).map digitValue,
        rest.dropWhile Char.isDigit,
        Nat.lt_succ_of_le (length_dropWhile_le Char.isDigit rest)⟩
    else none

/-- The rest of what was read, or all of it when there was nothing. -/
private structure Optional (α : Type) (cs : List Char) where
  value : Option α
  rest : List Char
  short : rest.length ≤ cs.length

private def scanFraction (cs : List Char) : Option (Optional (List Nat) cs) :=
  match cs with
  | '.' :: rest => do
    let places ← scanDigits rest
    return ⟨some places.value, places.rest, Nat.le_of_lt (length_lt_append ['.'] places.shorter)⟩
  | cs => some ⟨none, cs, Nat.le_refl _⟩

private def scanExponent (cs : List Char) : Option (Optional (Bool × List Nat) cs) :=
  match cs with
  | c :: '-' :: rest =>
    if c = 'e' ∨ c = 'E' then do
      let size ← scanDigits rest
      return ⟨some (true, size.value), size.rest,
        Nat.le_of_lt (length_lt_append [c, '-'] size.shorter)⟩
    else some ⟨none, c :: '-' :: rest, Nat.le_refl _⟩
  | c :: '+' :: rest =>
    if c = 'e' ∨ c = 'E' then do
      let size ← scanDigits rest
      return ⟨some (false, size.value), size.rest,
        Nat.le_of_lt (length_lt_append [c, '+'] size.shorter)⟩
    else some ⟨none, c :: '+' :: rest, Nat.le_refl _⟩
  | c :: rest =>
    if c = 'e' ∨ c = 'E' then do
      let size ← scanDigits rest
      return ⟨some (false, size.value), size.rest,
        Nat.le_of_lt (length_lt_append [c] size.shorter)⟩
    else some ⟨none, c :: rest, Nat.le_refl _⟩
  | [] => some ⟨none, [], Nat.le_refl _⟩

/-- A number without its sign: no zero stands before other digits, and digits follow a point and an
exponent mark. -/
private def scanUnsigned (negative : Bool) (cs : List Char) :
    Option (Scanned Numeral.Parts cs) := do
  let whole ← scanDigits cs
  if whole.value.head? = some 0 ∧ whole.value.length ≠ 1 then none
  let fraction ← scanFraction whole.rest
  let exponent ← scanExponent fraction.rest
  return ⟨⟨negative, whole.value, fraction.value, exponent.value⟩, exponent.rest,
    Nat.lt_of_le_of_lt (Nat.le_trans exponent.short fraction.short) whole.shorter⟩

def scanNumber (cs : List Char) : Option (Scanned Numeral.Parts cs) :=
  match cs with
  | '-' :: rest => do
    let found ← scanUnsigned true rest
    return ⟨found.value, found.rest, length_lt_append ['-'] found.shorter⟩
  | cs => scanUnsigned false cs

def isBlank (c : Char) : Bool := c = ' ' || c = '\n' || c = '\t' || c = '\r'

/-- All tokens of a text, up to and with the first bad one. -/
def scan (cs : List Char) : List Token :=
  match cs with
  | [] => []
  | '\x7b' :: rest => openBrace :: scan rest
  | '\x7d' :: rest => closeBrace :: scan rest
  | '[' :: rest => openBracket :: scan rest
  | ']' :: rest => closeBracket :: scan rest
  | ':' :: rest => colon :: scan rest
  | ',' :: rest => comma :: scan rest
  | 'n' :: 'u' :: 'l' :: 'l' :: rest => scalar .null :: scan rest
  | 't' :: 'r' :: 'u' :: 'e' :: rest => scalar (.bool true) :: scan rest
  | 'f' :: 'a' :: 'l' :: 's' :: 'e' :: rest => scalar (.bool false) :: scan rest
  | '"' :: rest =>
    match scanUnits [] rest with
    | some ⟨units, rest, _⟩ => scalar (.string (String.ofList <$> ofUnits? units)) :: scan rest
    | none => [bad]
  | c :: rest =>
    if isBlank c then scan rest
    else
      match scanNumber (c :: rest) with
      | some ⟨parts, rest, _⟩ => scalar (.number (Numeral.ofParts? parts)) :: scan rest
      | none => [bad]
termination_by cs.length
decreasing_by all_goals (simp only [List.length_cons] at *; omega)

end Token
end TypeGraph.Json
