import TypeGraph.Command.Account
import TypeGraph.Command.Arguments
import TypeGraph.Json.Pretty
import TypeGraph.Validation

/-! Running the command: from its arguments and the files at hand to its output. -/
namespace TypeGraph.Command

/-- What a run leaves behind. -/
structure Outcome where
  exitCode : UInt8
  output : String
  /-- Lines told beside the output. -/
  notes : List String
  deriving DecidableEq, Repr

def versionNumber : String := "0.1.0"

def usage : String :=
  String.intercalate "\n" [
    "Usage: tgm [-v...] validate FILE... [--deny-warnings]",
    "       tgm [-v...] inspect FILE... [--allow-invalid] [QUERY]",
    "",
    "QUERY is one of --type NAME, --kind KIND, --relations NAME, --namespaces,",
    "--namespace PATH, --enum NAME.",
    ""]

def loaded (path : String) (declarations : Declarations) : LogEntry :=
  ⟨.debug, "loaded model declarations",
    [("path", path), ("types", toString declarations.types.length),
      ("profiles", toString declarations.profiles.entries.length)]⟩

/-- An entry for each file up to the first that fails. -/
def loadEntries (read : TextReader) (files : Files) : List String → List LogEntry
  | [] => []
  | path :: rest =>
    match read.load files path with
    | .ok declarations => loaded path declarations :: loadEntries read files rest
    | .error _ => []

/-- Which profiles are replaced when sources are merged onto `declarations`. -/
def replacements (declarations : Declarations) : List Declarations → List LogEntry
  | [] => []
  | source :: rest =>
    let names := source.profiles.keys.filter declarations.profiles.contains
    names.map (fun name =>
      ⟨.debug, "permission profile replaced by later source", [("profile", name)]⟩)
    ++ replacements (declarations.merge source) rest

def merged (declarations : Declarations) : LogEntry :=
  ⟨.debug, "declarations merged", [("types", toString declarations.types.length)]⟩

def resolved (relation : Relation) : LogEntry :=
  ⟨.trace, "resolved relation",
    [("from_type", relation.fromType), ("from_field", relation.fromField),
      ("to_type", relation.toType), ("bidirectional", toString relation.isBidirectional)]⟩

def constructed (model : Model) : LogEntry :=
  ⟨.debug, "model constructed",
    [("types", toString model.types.length), ("relations", toString model.relations.length),
      ("namespaces", toString model.namespaces.size),
      ("dropped", toString model.conflicts.length)]⟩

def validated (report : Report) : LogEntry :=
  ⟨.info, "model validated",
    [("errors", toString report.errorCount), ("warnings", toString report.warningCount)]⟩

def invalid (report : Report) : LogEntry :=
  ⟨.warn, "inspecting an invalid model", [("errors", toString report.errorCount)]⟩

/-- Load and merge all files. -/
def gather (read : TextReader) (files : Files) (paths : List String) : Account Declarations := do
  Account.tell (loadEntries read files paths)
  match read.loadEach files paths with
  | .ok sources =>
    Account.tell (replacements ∅ sources)
    return Declarations.mergeAll sources
  | .error error => Account.fail (.source error)

/-- Build a model and validate it. -/
def examine (declarations : Declarations) : Account (Model × Report) := do
  let model := Model.ofDeclarations declarations
  let report := model.validate
  Account.tell (model.relations.map resolved ++ [constructed model, validated report])
  return (model, report)

/-- What a task answers when nothing stops it. -/
structure Answer where
  exitCode : UInt8 := 0
  output : String
  /-- Lines told after everything else. -/
  verdict : List String := []

/-- One line for each message, and then the verdict: on the output if it is good. -/
def validate (read : TextReader) (files : Files) (paths : List String) (denyWarnings : Bool) :
    Account Answer := do
  let declarations ← gather read files paths
  Account.tell [merged declarations]
  let (_, report) ← examine declarations
  let output := String.join (report.messages.map (·.display ++ "\n"))
  let exitCode := report.exitCode denyWarnings
  if exitCode = 0 then
    let verdict := s!"OK: {paths.length} file(s), {report.warningCount} warning(s)\n"
    return { output := output ++ verdict }
  else
    let verdict := s!"FAILED: {report.errorCount} error(s), {report.warningCount} warning(s)"
    return { exitCode, output, verdict := [verdict] }

/-- The answer to a question about a model, which has to be without errors unless the caller allows
them. -/
def inspect (read : TextReader) (files : Files) (paths : List String) (query : Query)
    (allowInvalid : Bool) : Account Answer := do
  let (model, report) ← examine (← gather read files paths)
  if report.hasErrors then
    if allowInvalid then Account.tell [invalid report]
    else Account.fail (.invalidModel report.errorCount)
  match query.answer model with
  | .ok value => return { output := value.pretty ++ "\n" }
  | .error unknown => Account.fail (.unknownKind unknown)

/-- The account of a task. -/
def Task.account (read : TextReader) (files : Files) (paths : List String) : Task → Account Answer
  | .validate denyWarnings => Command.validate read files paths denyWarnings
  | .inspect query allowInvalid => Command.inspect read files paths query allowInvalid

def Invocation.run (read : TextReader) (files : Files) (invocation : Invocation) : Outcome :=
  let account := invocation.task.account read files invocation.files
  let started : LogEntry := ⟨.debug, "tgm starting", [("version", "\"" ++ versionNumber ++ "\"")]⟩
  let told := fun entries : List LogEntry =>
    (entries.filter (·.isShown invocation.verbosity)).flatMap (·.lines)
  match account.result with
  | .ok answer =>
    ⟨answer.exitCode, answer.output, told (started :: account.entries) ++ answer.verdict⟩
  | .error failure =>
    ⟨1, "", told (started :: account.entries ++ [⟨.error, failure.message, []⟩])⟩

/-- Without a task there is still something to say, or the arguments were wrong. -/
def Refusal.outcome : Refusal → Outcome
  | .help => ⟨0, usage, []⟩
  | .version => ⟨0, "tgm " ++ versionNumber ++ "\n", []⟩
  | .misuse => ⟨2, "", []⟩

/-- Run the command. -/
def run (files : Files) (arguments : List String) : Outcome :=
  match Invocation.ofArguments arguments with
  | .ok invocation => invocation.run Declarations.ofText files
  | .error refusal => refusal.outcome

end TypeGraph.Command
