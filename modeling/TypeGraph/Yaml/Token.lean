import TypeGraph.Document.Tree

/-! The tokens of YAML text. Indentation shows in tokens of its own, which open and close the block
collections that no bracket encloses. -/
namespace TypeGraph.Yaml

inductive Token where
  | streamEnd
  | versionDirective (major minor : Nat)
  | tagDirective (handle : String) (start : Tag)
  | documentStart
  | documentEnd
  | blockSequenceStart
  | blockMappingStart
  | blockEnd
  | flowSequenceStart
  | flowSequenceEnd
  | flowMappingStart
  | flowMappingEnd
  | blockEntry
  | flowEntry
  | key
  | value
  | aliasOf (name : String)
  | anchor (name : String)
  | tag (handle : String) (suffix : Tag)
  | scalar (style : ScalarStyle) (text : String)
  deriving DecidableEq, Repr

/-- Flow collections are those in brackets; the blocks outside go by indentation. -/
inductive Context where
  | block
  | flow
  deriving DecidableEq, Repr

end TypeGraph.Yaml
