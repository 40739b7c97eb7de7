import TypeGraph.Text.Split

/-! What the command tells of its own doings. -/
namespace TypeGraph

/-- How much an entry matters. -/
inductive Level where
  | error
  | warn
  | info
  | debug
  | trace
  deriving DecidableEq, Repr

namespace Level

def name : Level → String
  | error => "ERROR"
  | warn => "WARN"
  | info => "INFO"
  | debug => "DEBUG"
  | trace => "TRACE"

/-- How often one has to ask for more before entries of this level show. -/
def verbosity : Level → Nat
  | error | warn => 0
  | info => 1
  | debug => 2
  | trace => 3

end Level

/-- A text with named values. -/
structure LogEntry where
  level : Level
  text : String
  values : List (String × String) := []
  deriving DecidableEq, Repr

namespace LogEntry

private def hexDigits (n : Nat) : String := String.ofList (Nat.toDigits 16 n)

/-- Controls that a terminal might obey are spelt out. -/
def showChar (c : Char) : String :=
  if ['\x07', '\x08', '\x0c', '\x1b', '\x7f'].contains c then
    "\\x" ++ (if c.toNat < 0x10 then "0" else "") ++ hexDigits c.toNat
  else if 0x80 ≤ c.toNat && c.toNat ≤ 0x9f then "\\u\x7b" ++ hexDigits c.toNat ++ "\x7d"
  else c.toString

/-- The text is made safe to show; values are shown as they are. -/
def display (entry : LogEntry) : String :=
  let text := String.join (entry.text.toList.map showChar)
  let values := entry.values.map fun value => " " ++ value.1 ++ "=" ++ value.2
  entry.level.name ++ " " ++ text ++ String.join values

/-- A text may have line ends in it. -/
def lines (entry : LogEntry) : List String := Text.lines entry.display

def isShown (verbosity : Nat) (entry : LogEntry) : Bool := entry.level.verbosity ≤ verbosity

end LogEntry
end TypeGraph
