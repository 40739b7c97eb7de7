import TypeGraph.View.Query

/-! The arguments of the command line. Options and files may be mixed; two dashes end the options,
and a single dash is a file. -/
namespace TypeGraph.Command

/-- What to do with a model. -/
inductive Task where
  | validate (denyWarnings : Bool)
  | inspect (query : Query) (allowInvalid : Bool)
  deriving DecidableEq, Repr

structure Invocation where
  task : Task
  files : List String
  verbosity : Nat
  deriving DecidableEq, Repr

/-- Why nothing is to be done. -/
inductive Refusal where
  | help
  | version
  /-- The arguments make no sense. -/
  | misuse
  deriving DecidableEq, Repr

/-- The options of a task: those that stand alone, and those that take a value. -/
structure Options where
  switches : List String
  valued : List String

/-- What was given: options by name, a switch with an empty value, and files. -/
structure Given where
  options : List (String × String) := []
  files : List String := []
  verbosity : Nat := 0
  /-- The option whose value has to come next. -/
  awaiting : Option String := none
  /-- Whether all that is to come are files. -/
  filesOnly : Bool := false

namespace Given

def has (given : Given) (name : String) : Bool := (given.options.lookup name).isSome

/-- An option may be given once. -/
def addOption (given : Given) (name value : String) : Except Refusal Given :=
  if given.has name then .error .misuse
  else .ok { given with options := given.options ++ [(name, value)] }

/-- A file has a name. -/
def addFile (given : Given) (name : String) : Except Refusal Given :=
  if name = "" then .error .misuse else .ok { given with files := given.files ++ [name] }

end Given

/-- Go through letters behind one dash: `v` for more to be told, and `h` for help. -/
def letters (verbosity : Nat) (version : Bool) : List Char → Except Refusal Nat
  | [] => .ok verbosity
  | 'v' :: rest => letters (verbosity + 1) version rest
  | 'h' :: _ => .error .help
  | 'V' :: _ => if version then .error .version else .error .misuse
  | _ => .error .misuse

/-- The name of an option and the value behind an equals sign. -/
def splitOption (cs : List Char) : String × Option String :=
  let name := String.ofList (cs.takeWhile (· ≠ '='))
  match cs.dropWhile (· ≠ '=') with
  | [] => (name, none)
  | _ :: value => (name, some (String.ofList value))

/-- Whether an argument reads as an option and not as a value. -/
def looksLikeOption (argument : String) : Bool :=
  argument.toList.head? = some '-' && argument ≠ "-"

/-- Read the name of an option. -/
def readOption (options : Options) (given : Given) (name : String) : Except Refusal Given :=
  if options.valued.contains name then .ok { given with awaiting := some name }
  else if options.switches.contains name then given.addOption name ""
  else if name = "verbose" then .ok { given with verbosity := given.verbosity + 1 }
  else if name = "help" then .error .help
  else .error .misuse

/-- Read one argument of a task. -/
def readArgument (options : Options) (given : Given) (argument : String) :
    Except Refusal Given :=
  match given.awaiting, argument.toList with
  | some name, _ =>
    if looksLikeOption argument then .error .misuse
    else { given with awaiting := none }.addOption name argument
  | none, '-' :: c :: more =>
    if given.filesOnly then given.addFile argument
    else if c ≠ '-' then do
      return { given with verbosity := ← letters given.verbosity false (c :: more) }
    else if more.isEmpty then .ok { given with filesOnly := true }
    else
      match splitOption more with
      | (name, none) => readOption options given name
      | (name, some value) =>
        if options.valued.contains name then given.addOption name value else .error .misuse
  | none, _ => given.addFile argument

/-- Read all arguments of a task. -/
def readGiven (options : Options) (arguments : List String) : Except Refusal Given := do
  let given ← arguments.foldlM (readArgument options) {}
  if given.awaiting.isSome || given.files.isEmpty then .error .misuse else .ok given

def validateOptions : Options := ⟨["deny-warnings"], []⟩

def inspectOptions : Options :=
  ⟨["allow-invalid", "namespaces"], ["type", "kind", "relations", "namespace", "enum"]⟩

/-- The question that an option asks. -/
def query? (option : String × String) : Option Query :=
  match option with
  | ("type", name) => some (.type name)
  | ("kind", name) => some (.kind name)
  | ("relations", name) => some (.relations name)
  | ("namespaces", _) => some .namespaces
  | ("namespace", path) => some (.namespaceAt path)
  | ("enum", name) => some (.enum name)
  | _ => none

/-- At most one question is asked at a time; without one, all types are shown. -/
def inspection (given : Given) : Except Refusal Task :=
  match given.options.filterMap query? with
  | [] => .ok (.inspect .types (given.has "allow-invalid"))
  | [query] => .ok (.inspect query (given.has "allow-invalid"))
  | _ => .error .misuse

/-- What is wanted behind the word `help`: help in general, or on one of the words that may stand
there. -/
def helpOn : List String → Refusal
  | [] => .help
  | [name] => if ["validate", "inspect", "help"].contains name then .help else .misuse
  | _ => .misuse

/-- The task of a name, from the arguments behind it. What they say about verbosity wins over what
stood before the name. -/
def readTask (verbosity : Nat) (name : String) (arguments : List String) :
    Except Refusal Invocation := do
  let (given, task) ←
    if name = "validate" then do
      let given ← readGiven validateOptions arguments
      pure (given, Task.validate (given.has "deny-warnings"))
    else if name = "inspect" then do
      let given ← readGiven inspectOptions arguments
      pure (given, ← inspection given)
    else .error (if name = "help" then helpOn arguments else .misuse)
  return ⟨task, given.files, if given.verbosity = 0 then verbosity else given.verbosity⟩

/-- Read all arguments: options for every task, then the name of one and its own arguments. -/
def readArguments (verbosity : Nat) : List String → Except Refusal Invocation
  | [] => .error .misuse
  | argument :: rest =>
    if argument = "--verbose" then readArguments (verbosity + 1) rest
    else if argument = "--version" then .error .version
    else if argument = "--help" then .error .help
    else
      match argument.toList with
      | '-' :: c :: more =>
        if c = '-' then .error .misuse
        else do readArguments (← letters verbosity true (c :: more)) rest
      | _ => readTask verbosity argument rest

def Invocation.ofArguments (arguments : List String) : Except Refusal Invocation :=
  readArguments 0 arguments

end TypeGraph.Command
