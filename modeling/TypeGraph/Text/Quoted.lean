import TypeGraph.Text.Printable

/-! Texts in double quotes, with everything that would not show spelt out as an escape. -/
namespace TypeGraph.Text.Quoted

private def hexDigits (n : Nat) : String := String.ofList (Nat.toDigits 16 n)

/-- Quotes, backslashes and the four named controls have short escapes; what cannot be shown, or
would combine with its neighbour, is written by its code point in lower-case hexadecimal. -/
def encodeChar (c : Char) : String :=
  if c = '"' then "\\\""
  else if c = '\\' then "\\\\"
  else if c = '\n' then "\\n"
  else if c = '\r' then "\\r"
  else if c = '\t' then "\\t"
  else if c = '\x00' then "\\0"
  else if 0x20 ≤ c.toNat && c.toNat ≤ 0x7e then c.toString
  else if graphemeExtenders.contains c || unprintable.contains c || fillers.contains c then
    "\\u\x7b" ++ hexDigits c.toNat ++ "\x7d"
  else c.toString

/-- The text between double quotes. -/
def encode (text : String) : String :=
  "\"" ++ String.join (text.toList.map encodeChar) ++ "\""

end TypeGraph.Text.Quoted
