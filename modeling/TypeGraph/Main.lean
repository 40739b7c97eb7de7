import TypeGraph.Command.Run

/-! The command `tgm`: files and arguments in, lines and an exit code out. -/
namespace TypeGraph.Command

/-- The text of a file, or why there is none. -/
def readFile (path : String) : IO (Except ReadFailure String) := do
  try
    let bytes ← IO.FS.readBinFile path
    match String.fromUTF8? bytes with
    | some text => return .ok text
    | none => return .error .notText
  catch
    | .noFileOrDirectory _ _ _ => return .error .notFound
    | .inappropriateType _ _ _ => return .error .isDirectory
    | failure => return .error (.other (toString failure))

/-- The files that the arguments name. -/
def readFiles (arguments : List String) : IO Files := do
  match Invocation.ofArguments arguments with
  | .error _ => return fun _ => .error .notFound
  | .ok invocation =>
    let contents ← invocation.files.mapM fun path => return (path, ← readFile path)
    return fun path => (contents.lookup path).getD (.error .notFound)

/-- Say how the command is used, if the arguments make no sense. -/
def explain (arguments : List String) : IO Unit :=
  match Invocation.ofArguments arguments with
  | .error .misuse => IO.eprint usage
  | _ => return ()

end TypeGraph.Command

def main (arguments : List String) : IO UInt32 := do
  let outcome := TypeGraph.Command.run (← TypeGraph.Command.readFiles arguments) arguments
  IO.print outcome.output
  outcome.notes.forM fun line => IO.eprintln line
  TypeGraph.Command.explain arguments
  return outcome.exitCode.toUInt32
