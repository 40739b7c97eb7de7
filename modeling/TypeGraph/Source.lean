import TypeGraph.Declaration.Decode
import TypeGraph.Declaration.Stamp
import TypeGraph.Json.Reader
import TypeGraph.Text.Space
import TypeGraph.Text.Split
import TypeGraph.Yaml.Reader

/-! Sources of declarations: JSON and YAML texts, and the files that hold them. -/
namespace TypeGraph

/-- The format of a text. -/
inductive Format where
  | json
  | yaml
  deriving DecidableEq, Repr

namespace Format

/-- The last segment of a path, trailing slashes and segments for the directory itself aside. -/
def fileName? (path : String) : Option String :=
  ((Text.split '/' path).filter fun segment => segment ≠ "" ∧ segment ≠ ".").getLast?

/-- What follows the last dot of a file name, if anything stands before that dot. -/
def extension? (name : String) : Option String :=
  let ending := name.toList.reverse.takeWhile (· ≠ '.')
  if name = ".." || name.length ≤ ending.length + 1 then none
  else some (String.ofList ending.reverse)

/-- Files are YAML by their extension and JSON otherwise. -/
def ofPath (path : String) : Format :=
  match (fileName? path).bind extension? with
  | some "yaml" | some "yml" => yaml
  | _ => json

end Format

/-- Why there is no text to be had from a file. -/
inductive ReadFailure where
  | notFound
  | isDirectory
  /-- The bytes of the file are no UTF-8. -/
  | notText
  /-- The system gave another reason. -/
  | other (reason : String)
  deriving DecidableEq, Repr

def ReadFailure.message : ReadFailure → String
  | notFound => "No such file or directory (os error 2)"
  | isDirectory => "Is a directory (os error 21)"
  | notText => "stream did not contain valid UTF-8"
  | other reason => reason

/-- The text of the file at a path, or why there is none. -/
abbrev Files := String → Except ReadFailure String

/-- Why a source gives no declarations. -/
inductive SourceError where
  | unreadable (path : String) (failure : ReadFailure)
  /-- The problem is known, but a message names the origin alone. -/
  | invalidYaml (origin : String) {problem : Problem}
  | invalidJson (origin : String) (problem : Problem)

namespace SourceError

/-- Which source failed, and how, without what is wrong in its text. -/
def summary : SourceError → String
  | unreadable path failure => s!"cannot read '{path}': {failure.message}"
  | invalidYaml origin => s!"invalid YAML in '{origin}'"
  | invalidJson origin _ => s!"invalid JSON in '{origin}'"

/-- The summary, and for a text of the wrong shape what is wrong with it. -/
def message (error : SourceError) : String :=
  match error with
  | invalidJson _ problem =>
    if problem.isSyntaxError then error.summary else error.summary ++ ": " ++ problem.message
  | unreadable _ _ | invalidYaml _ => error.summary

/-- The summary, followed once more by the failure that caused it. For a text the command prints its
cause as well, in the words of the parser; these are left out here. -/
def trail (error : SourceError) : String :=
  match error with
  | unreadable _ failure => error.summary ++ ": " ++ failure.message
  | invalidYaml _ | invalidJson _ _ => error.summary

end SourceError

/-- How a text of a format gives declarations. The origin is there for errors to name it. -/
abbrev TextReader := Format → (origin text : String) → Except SourceError Declarations

namespace TextReader

variable (read : TextReader) (files : Files)

/-- The declarations of a file, each with the place where it stands. -/
def load (path : String) : Except SourceError Declarations := do
  let text ← (files path).mapError (.unreadable path)
  return (← read (.ofPath path) path text).stamp path

/-- The declarations of each of several files. The first file that fails is the one that is
blamed. -/
def loadEach (paths : List String) : Except SourceError (List Declarations) :=
  paths.mapM (read.load files)

/-- The declarations of several files, merged in their order. -/
def loadAll (paths : List String) : Except SourceError Declarations :=
  Declarations.mergeAll <$> read.loadEach files paths

end TextReader

namespace Declarations

/-- The origin of texts that come from no file. -/
def inlineOrigin : String := "<inline>"

/-- The declarations of a text. A blank YAML text declares nothing. -/
def ofText (format : Format) (origin text : String) : Except SourceError Declarations :=
  match format with
  | .json => (Json.decodeText decode text).mapError (.invalidJson origin)
  | .yaml =>
    if Text.isBlank text then .ok ∅
    else (Yaml.decodeText decode text).mapError (@SourceError.invalidYaml origin)

def load (files : Files) (path : String) : Except SourceError Declarations :=
  TextReader.load ofText files path

def loadAll (files : Files) (paths : List String) : Except SourceError Declarations :=
  TextReader.loadAll ofText files paths

end Declarations
end TypeGraph
