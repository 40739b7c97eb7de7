import TypeGraph.Source
import TypeGraph.Validation

/-! Models from files. -/
namespace TypeGraph

/-- Why files give no model. -/
inductive ModelError where
  | source (error : SourceError)
  /-- The declarations can be read, but there are errors among their messages. -/
  | invalid (report : Report)

namespace Model

/-- The model of several files that are read in some way and merged in their order. -/
def loadBy (read : TextReader) (files : Files) (paths : List String) : Except ModelError Model := do
  let declarations ← (read.loadAll files paths).mapError .source
  declarations.build.mapError .invalid

def load (files : Files) (paths : List String) : Except ModelError Model :=
  loadBy Declarations.ofText files paths

end Model

end TypeGraph
