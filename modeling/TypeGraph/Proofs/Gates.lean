import TypeGraph.Command.Run
import TypeGraph.Model.Load
import TypeGraph.Proofs.Loading
import Mathlib.Data.List.TFAE
import Mathlib.Tactic.TFAE

/-! Ways to have declarations accepted. A program builds a model of files, and the command validates or
inspects them; each decides by itself whether they will do. All start by loading the files, and then
they look at the same report, so they agree. How a text is read makes no difference to that. -/
namespace TypeGraph

open Declarations (mergeAll)

variable {read : TextReader} {files other : Files} {path : String}
  {paths before after rest : List String} {sources : List Declarations} {error : SourceError}
  {denyWarnings allowInvalid : Bool} {verbosity : Nat}

namespace Report

variable {report : Report}

theorem exitCode_eq_zero_iff : report.exitCode denyWarnings = 0 ↔
    report.hasErrors = false ∧ (denyWarnings = true → report.warningCount = 0) := by
  unfold exitCode
  cases report.hasErrors <;> cases denyWarnings <;> simp

theorem hasErrors_eq_false_iff :
    report.hasErrors = false ↔ ∀ message ∈ report.messages, message.severity ≠ .error := by
  simp [hasErrors, Message.isError]

/-- Where neither errors nor warnings are allowed, nothing may be said at all. -/
theorem silent_iff : report.hasErrors = false ∧ report.warningCount = 0 ↔ report.messages = [] := by
  rw [hasErrors_eq_false_iff, warningCount, List.length_eq_zero_iff, warnings, List.filter_eq_nil_iff,
    ← forall₂_and, List.eq_nil_iff_forall_not_mem]
  refine forall₂_congr fun message _ => ?_
  cases severity : message.severity <;> simp [Message.isWarning, severity]

end Report

/-- The report on files that are merged in their order. -/
def Declarations.report (sources : List Declarations) : Report :=
  (Model.ofDeclarations (mergeAll sources)).validate

open Declarations (report)

namespace TextReader

theorem Loads.load_eq (loads : read.Loads files paths sources) :
    Model.loadBy read files paths = (mergeAll sources).build.mapError .invalid := by
  rw [Model.loadBy, loads.loadAll_eq]
  rfl

theorem FailsFirst.load_eq (first : read.FailsFirst files paths before path error) :
    Model.loadBy read files paths = .error (.source error) := by
  rw [Model.loadBy, first.loadAll_eq]
  rfl

theorem load_isOk_iff : (∃ model, Model.loadBy read files paths = .ok model) ↔
    ∃ sources, read.Loads files paths sources ∧ (report sources).hasErrors = false := by
  refine iff_loads_and (fun sources loads => ?_) fun before path error first => ?_
  · rw [loads.load_eq, Declarations.build, report]
    cases (Model.ofDeclarations (mergeAll sources)).validate.hasErrors <;> simp [Except.mapError]
  · simp [first.load_eq]

end TextReader

namespace Command

namespace Account

variable {α β : Type} {account : Account α} {step : α → Account β} {value : α} {failure : Failure}

theorem result_bind_of_ok (goesOn : account.result = .ok value) :
    (account >>= step).result = (step value).result := by
  change (next account step).result = _
  rw [next, goesOn]

theorem bind_of_error (ends : account.result = .error failure) :
    account >>= step = ⟨account.entries, .error failure⟩ := by
  change next account step = _
  rw [next, ends]

@[simp] theorem result_tell_bind {entries : List LogEntry} {step : Unit → Account β} :
    (tell entries >>= step).result = (step ()).result :=
  result_bind_of_ok rfl

@[simp] theorem result_pure : (pure value : Account α).result = .ok value := rfl

end Account

theorem result_gather (loads : read.Loads files paths sources) :
    (gather read files paths).result = .ok (mergeAll sources) := by
  simp [gather, loads.loadEach_eq]

theorem result_examine {declarations : Declarations} : (examine declarations).result =
    .ok (Model.ofDeclarations declarations, (Model.ofDeclarations declarations).validate) :=
  rfl

/-- What is validated is told by the report on the files. -/
theorem result_validate (loads : read.Loads files paths sources) : ∃ answer,
    ((Task.validate denyWarnings).account read files paths).result = .ok answer ∧
      answer.exitCode = (report sources).exitCode denyWarnings := by
  rw [Task.account, validate, Account.result_bind_of_ok (result_gather loads),
    Account.result_tell_bind, Account.result_bind_of_ok result_examine]
  by_cases accepted : (report sources).exitCode denyWarnings = 0
  · refine ⟨_, congrArg Account.result (if_pos accepted), accepted.symm⟩
  · refine ⟨_, congrArg Account.result (if_neg accepted), rfl⟩

/-- A model without errors is shown, and one with errors where they are allowed. -/
theorem result_inspect_of_allowed (loads : read.Loads files paths sources)
    (allowed : (report sources).hasErrors = true → allowInvalid = true) : ∃ answer,
    ((Task.inspect .types allowInvalid).account read files paths).result = .ok answer ∧
      answer.exitCode = 0 := by
  rw [Task.account, inspect, Account.result_bind_of_ok (result_gather loads),
    Account.result_bind_of_ok result_examine]
  cases invalid : (report sources).hasErrors with
  | false => exact ⟨_, congrArg Account.result (if_neg (Bool.eq_false_iff.mp invalid)), rfl⟩
  | true =>
    obtain rfl := allowed invalid
    exact ⟨_, congrArg Account.result (if_pos invalid), rfl⟩

/-- A model with errors is not shown unless they are allowed. -/
theorem result_inspect_of_refused (loads : read.Loads files paths sources)
    (invalid : (report sources).hasErrors = true) :
    ((Task.inspect .types false).account read files paths).result =
      .error (.invalidModel (report sources).errorCount) := by
  rw [Task.account, inspect, Account.result_bind_of_ok (result_gather loads),
    Account.result_bind_of_ok result_examine]
  exact congrArg Account.result (if_pos invalid)

variable {task : Task} {answer : Answer} {failure : Failure}

theorem exitCode_run_of_ok (answered : (task.account read files paths).result = .ok answer) :
    (Invocation.run read files ⟨task, paths, verbosity⟩).exitCode = answer.exitCode := by
  rw [Invocation.run, answered]

theorem exitCode_run_of_error (ends : (task.account read files paths).result = .error failure) :
    (Invocation.run read files ⟨task, paths, verbosity⟩).exitCode = 1 := by
  rw [Invocation.run, ends]

/-- A file that does not load ends the log, whatever stands behind it. -/
theorem loadEntries_append (fails : read.load files path = .error error) :
    loadEntries read files (before ++ path :: after) = loadEntries read files before := by
  induction before with
  | nil => simp [loadEntries, fails]
  | cons head rest ih =>
    rw [List.cons_append, loadEntries, loadEntries]
    cases read.load files head with
    | error error => rfl
    | ok source => exact congrArg _ ih

theorem loadEntries_congr (same : ∀ path ∈ before, files path = other path) :
    loadEntries read files before = loadEntries read other before := by
  induction before with
  | nil => rfl
  | cons head rest ih =>
    obtain ⟨here, later⟩ := List.forall_mem_cons.mp same
    rw [loadEntries, loadEntries, TextReader.load_congr here, ih later]

/-- Every task starts by gathering its files. -/
theorem account_of_failsFirst (first : read.FailsFirst files paths before path error) (task : Task) :
    task.account read files paths = ⟨loadEntries read files before, .error (.source error)⟩ := by
  have gathered :
      gather read files paths = ⟨loadEntries read files before, .error (.source error)⟩ := by
    obtain ⟨after, rfl⟩ := first.among
    rw [← loadEntries_append first.fails, gather, first.loadEach_eq]
    exact congrArg (Account.mk · _) (List.append_nil _)
  cases task with
  | validate denyWarnings =>
    rw [Task.account, validate, Account.bind_of_error (congrArg Account.result gathered), gathered]
  | inspect query allowInvalid =>
    rw [Task.account, inspect, Account.bind_of_error (congrArg Account.result gathered), gathered]

theorem run_of_failsFirst (first : read.FailsFirst files paths before path error) (task : Task)
    (verbosity : Nat) : ∃ told, Invocation.run read files ⟨task, paths, verbosity⟩ =
      ⟨1, "", told ++ LogEntry.lines ⟨.error, (Failure.source error).message, []⟩⟩ := by
  have shown : ([⟨.error, (Failure.source error).message, []⟩] : List LogEntry).filter
      (·.isShown verbosity) = [⟨.error, (Failure.source error).message, []⟩] := by
    simp [LogEntry.isShown, Level.verbosity]
  simp only [Invocation.run, account_of_failsFirst first, List.filter_append, List.flatMap_append,
    shown, List.flatMap_singleton]
  exact ⟨_, rfl⟩

theorem run_congr (first : read.FailsFirst files paths before path error)
    (same : ∀ path ∈ before, files path = other path) (here : files path = other path) (task : Task)
    (verbosity : Nat) : Invocation.run read files ⟨task, paths, verbosity⟩ =
      Invocation.run read other ⟨task, before ++ path :: rest, verbosity⟩ := by
  have accounts :
      task.account read files paths = task.account read other (before ++ path :: rest) := by
    rw [account_of_failsFirst first, account_of_failsFirst (first.congr same here rest),
      loadEntries_congr same]
  simp only [Invocation.run, accounts]

/-- Every way in ends with the failure of one source: there are no declarations and no model, and
whatever the task is, the command says so last and puts nothing out. -/
structure EndsIn (read : TextReader) (files : Files) (paths : List String) (error : SourceError) :
    Prop where
  loadAll : read.loadAll files paths = .error error
  load : Model.loadBy read files paths = .error (.source error)
  run : ∀ task verbosity, ∃ told, Invocation.run read files ⟨task, paths, verbosity⟩ =
    ⟨1, "", told ++ LogEntry.lines ⟨.error, (Failure.source error).message, []⟩⟩

theorem exitCode_run_ne_zero (first : read.FailsFirst files paths before path error) :
    (Invocation.run read files ⟨task, paths, verbosity⟩).exitCode ≠ 0 := by
  rw [exitCode_run_of_error (congrArg Account.result (account_of_failsFirst first task))]
  decide

theorem validate_passes_iff :
    (Invocation.run read files ⟨.validate denyWarnings, paths, verbosity⟩).exitCode = 0 ↔
      ∃ sources, read.Loads files paths sources ∧ (report sources).exitCode denyWarnings = 0 := by
  refine TextReader.iff_loads_and (fun sources loads => ?_)
    fun before path error first => exitCode_run_ne_zero first
  obtain ⟨answer, answered, code⟩ := result_validate loads
  rw [exitCode_run_of_ok answered, code]

theorem inspect_passes_iff :
    (Invocation.run read files ⟨.inspect .types allowInvalid, paths, verbosity⟩).exitCode = 0 ↔
      ∃ sources, read.Loads files paths sources ∧
        ((report sources).hasErrors = true → allowInvalid = true) := by
  refine TextReader.iff_loads_and (fun sources loads => ?_)
    fun before path error first => exitCode_run_ne_zero first
  by_cases allowed : (report sources).hasErrors = true → allowInvalid = true
  · obtain ⟨answer, answered, code⟩ := result_inspect_of_allowed loads allowed
    exact iff_of_true ((exitCode_run_of_ok answered).trans code) allowed
  · obtain ⟨invalid, strict⟩ := Classical.not_imp.mp allowed
    obtain rfl : allowInvalid = false := Bool.eq_false_iff.mpr strict
    have refused := result_inspect_of_refused loads invalid
    rw [exitCode_run_of_error refused]
    simp [invalid]

/-- All ways to have files accepted agree, however texts are read: a model can be built, the files pass
validation, and they can be inspected, exactly where every file loads and nothing that is said of them
is an error. Where warnings count, nothing may be said at all, and where errors are allowed, it is
enough that every file loads. Otherwise some file is the first that does not load, and whatever files
stand behind it, its failure is how everything ends. The command and `Model.load` read texts by
`Declarations.ofText`. -/
theorem gates_agree (read : TextReader) (files : Files) (paths : List String) (verbosity : Nat) :
    List.TFAE [
      ∃ model, Model.loadBy read files paths = .ok model,
      (Invocation.run read files ⟨.validate false, paths, verbosity⟩).exitCode = 0,
      (Invocation.run read files ⟨.inspect .types false, paths, verbosity⟩).exitCode = 0,
      ∃ sources, read.Loads files paths sources ∧
        ∀ message ∈ (report sources).messages, message.severity ≠ .error] ∧
    ((Invocation.run read files ⟨.validate true, paths, verbosity⟩).exitCode = 0 ↔
      ∃ sources, read.Loads files paths sources ∧ (report sources).messages = []) ∧
    ((Invocation.run read files ⟨.inspect .types true, paths, verbosity⟩).exitCode = 0 ↔
      ∃ sources, read.Loads files paths sources) ∧
    ((∃ sources, read.Loads files paths sources) ∨
      ∃ before path error, read.FailsFirst files paths before path error) ∧
    ∀ before path error, read.FailsFirst files paths before path error →
      EndsIn read files paths error ∧
      ∀ (other : Files) (rest : List String), (∀ path ∈ before, files path = other path) →
        files path = other path →
          Model.loadBy read other (before ++ path :: rest) = Model.loadBy read files paths ∧
          ∀ task, Invocation.run read other ⟨task, before ++ path :: rest, verbosity⟩ =
            Invocation.run read files ⟨task, paths, verbosity⟩ := by
  refine ⟨?_, ?_, ?_, TextReader.loads_or_failsFirst read files paths, ?_⟩
  · simp only [← Report.hasErrors_eq_false_iff]
    tfae_have 1 ↔ 4 := TextReader.load_isOk_iff
    tfae_have 2 ↔ 4 := by simp [validate_passes_iff, Report.exitCode_eq_zero_iff]
    tfae_have 3 ↔ 4 := by simp [inspect_passes_iff]
    tfae_finish
  · simp [validate_passes_iff, Report.exitCode_eq_zero_iff, Report.silent_iff]
  · simp [inspect_passes_iff]
  · intro before path error first
    refine ⟨⟨first.loadAll_eq, first.load_eq, run_of_failsFirst first⟩,
      fun other rest same here => ⟨?_, ?_⟩⟩
    · rw [first.load_eq, (first.congr same here rest).load_eq]
    · exact fun task => (run_congr first same here task verbosity).symm

/-- A file with a scalar that goes by a small letter, and nothing elsewhere. -/
def coins : Files := fun path =>
  if path = "coin.json" then
    .ok "\x7b\"types\":[\x7b\"kind\":\"SCALAR\",\"name\":\"coin\"\x7d]\x7d"
  else .error .notFound

/-- The same file, with another one that is no document. -/
def spoiltCoins : Files := fun path => if path = "other.json" then .ok "[" else coins path

/-- The file makes a model, though not where warnings count; with a file that is not there, nothing
is made of it, and what might be behind makes no difference. -/
theorem coins_at_the_gates :
    (∃ model, Model.load coins ["coin.json"] = .ok model) ∧
    (Invocation.run Declarations.ofText coins ⟨.validate true, ["coin.json"], 0⟩).exitCode = 1 ∧
    TextReader.FailsFirst Declarations.ofText coins ["coin.json", "note.yaml"] ["coin.json"]
      "note.yaml" (.unreadable "note.yaml" .notFound) ∧
    Model.load coins ["coin.json", "note.yaml"] =
      .error (.source (.unreadable "note.yaml" .notFound)) ∧
    Invocation.run Declarations.ofText spoiltCoins
        ⟨.validate true, ["coin.json", "note.yaml", "other.json"], 0⟩ =
      Invocation.run Declarations.ofText coins
        ⟨.validate true, ["coin.json", "note.yaml"], 0⟩ := by
  have accepted :
      (Invocation.run Declarations.ofText coins ⟨.validate false, ["coin.json"], 0⟩).exitCode = 0 := by
    decide +kernel
  have alike := (gates_agree Declarations.ofText coins ["coin.json"] 0).1
  obtain ⟨sources, loads, -⟩ := (alike.out 1 3).mp accepted
  have first : TextReader.FailsFirst Declarations.ofText coins ["coin.json", "note.yaml"]
      ["coin.json"] "note.yaml" (.unreadable "note.yaml" .notFound) := by
    refine ⟨⟨[], rfl⟩, fun path member => ?_, rfl⟩
    obtain rfl := List.mem_singleton.mp member
    cases loads with
    | cons loaded _ => exact ⟨_, loaded⟩
  obtain ⟨ended, unheard⟩ :=
    (gates_agree Declarations.ofText coins ["coin.json", "note.yaml"] 0).2.2.2.2 _ _ _ first
  have same : ∀ path ∈ ["coin.json"], coins path = spoiltCoins path := by
    intro path member
    obtain rfl := List.mem_singleton.mp member
    rfl
  exact ⟨(alike.out 1 0).mp accepted, by decide +kernel, first, ended.load,
    (unheard spoiltCoins ["other.json"] same rfl).2 (.validate true)⟩

end Command
end TypeGraph
