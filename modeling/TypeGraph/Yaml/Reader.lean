import TypeGraph.Yaml.Alias
import TypeGraph.Yaml.Layout
import TypeGraph.Document.Shape

/-! Reading YAML text. -/
namespace TypeGraph.Yaml

/-- The only document of a text. -/
def read? (text : String) : Option Node := do
  let cs := text.toList
  if cs.all isAllowed then Node.ofTokens? (← Token.scan (unifyBreaks cs)) else none

/-- Decode the document of a text. -/
def decodeText {α : Type} (decode : Decoder α) (text : String) : Except Problem α :=
  match read? text with
  | none => .error .syntaxError
  | some node =>
    match node.tree? with
    | none => .error .syntaxError
    | some tree => decode.run .yaml tree node.allowance

end TypeGraph.Yaml
