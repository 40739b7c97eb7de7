import TypeGraph.Location

/-! Messages about a model, and the report that a validation pass makes of them. -/
namespace TypeGraph

/-- An error makes a model unacceptable; a warning never does. -/
inductive Severity where
  | error
  | warning
  deriving DecidableEq, Repr

def Severity.name : Severity → String
  | error => "error"
  | warning => "warning"

structure Message where
  severity : Severity
  text : String
  location : Option SourceLocation := none
  deriving DecidableEq, Repr

namespace Message

def isError (message : Message) : Bool := message.severity = .error

def isWarning (message : Message) : Bool := message.severity = .warning

/-- Severity and text, and the place if it is known. -/
def display (message : Message) : String :=
  let head := message.severity.name ++ ": " ++ message.text
  match message.location with
  | some location => head ++ " (at " ++ location.display ++ ")"
  | none => head

end Message

/-- The messages of one pass, in the order in which it met their causes. -/
structure Report where
  messages : List Message
  deriving DecidableEq, Repr

namespace Report

def empty : Report := ⟨[]⟩

/-- The report with one more message at its end. -/
def add (report : Report) (message : Message) : Report := ⟨report.messages ++ [message]⟩

def errors (report : Report) : List Message := report.messages.filter (·.isError)

def warnings (report : Report) : List Message := report.messages.filter (·.isWarning)

def errorCount (report : Report) : Nat := report.errors.length

def warningCount (report : Report) : Nat := report.warnings.length

def hasErrors (report : Report) : Bool := report.messages.any (·.isError)

def isValid (report : Report) : Bool := !report.hasErrors

def isEmpty (report : Report) : Bool := report.messages.isEmpty

/-- One indented line for each message. -/
def display (report : Report) : String :=
  String.intercalate "\n" (report.messages.map fun message => "  " ++ message.display)

/-- Zero if the report is acceptable: without errors, and without warnings where they count. -/
def exitCode (report : Report) (denyWarnings : Bool) : UInt8 :=
  if report.hasErrors || (denyWarnings && report.warningCount > 0) then 1 else 0

end Report
end TypeGraph
