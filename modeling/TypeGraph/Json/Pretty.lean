import TypeGraph.Json

/-! Indented JSON text: two blanks for each level, members in the order of their names, and empty
containers on one line. -/
namespace TypeGraph.Json

private def hexDigit (n : Nat) : Char := Nat.digitChar n

/-- Quotes, backslashes and control characters are escaped and all else is written as it is. -/
def escapeChar (c : Char) : String :=
  if c = '"' then "\\\""
  else if c = '\\' then "\\\\"
  else if c = '\x08' then "\\b"
  else if c = '\x0c' then "\\f"
  else if c = '\n' then "\\n"
  else if c = '\r' then "\\r"
  else if c = '\t' then "\\t"
  else if c.toNat < 0x20 then
    String.ofList ['\\', 'u', '0', '0', hexDigit (c.toNat / 16), hexDigit (c.toNat % 16)]
  else c.toString

def quote (text : String) : String :=
  "\"" ++ String.join (text.toList.map escapeChar) ++ "\""

private def margin (level : Nat) : String := String.ofList (List.replicate (2 * level) ' ')

/-- Lines at `level` between an opening and a closing bracket. -/
private def block (level : Nat) (opening closing : String) (lines : List String) : String :=
  opening ++ "\n"
    ++ String.intercalate ",\n" (lines.map (margin (level + 1) ++ ·))
    ++ "\n" ++ margin level ++ closing

mutual

/-- The text of a value whose first line stands at `level`. -/
def prettyAt (level : Nat) : Json → String
  | null => "null"
  | bool value => if value then "true" else "false"
  | num value => toString value
  | str value => quote value
  | arr [] => "[]"
  | arr (item :: rest) => block level "[" "]" (prettyItems (level + 1) (item :: rest))
  | obj [] => "\x7b\x7d"
  | obj (member :: rest) =>
    let written := prettyMembers (level + 1) (member :: rest)
    let ordered := written.mergeSort fun a b => decide (a.1 ≤ b.1)
    block level "\x7b" "\x7d" (ordered.map fun entry => quote entry.1 ++ ": " ++ entry.2)

def prettyItems (level : Nat) : List Json → List String
  | [] => []
  | item :: rest => prettyAt level item :: prettyItems level rest

def prettyMembers (level : Nat) : List (String × Json) → List (String × String)
  | [] => []
  | (name, value) :: rest => (name, prettyAt level value) :: prettyMembers level rest

end

def pretty (value : Json) : String := prettyAt 0 value

end TypeGraph.Json
