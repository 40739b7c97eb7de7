import TypeGraph.View.Encode

/-! One question about a model, and the JSON that answers it. -/
namespace TypeGraph

/-- What to show of a model. A name that the model does not have is answered by null. -/
inductive Query where
  | types
  | type (name : String)
  | kind (name : String)
  | relations (name : String)
  | namespaces
  /-- A namespace by its dotted path. -/
  | namespaceAt (dotted : String)
  | enum (name : String)
  deriving DecidableEq, Repr

open Json (nullable list)

/-- Only a kind that there is not is an error. -/
def Query.answer (query : Query) (model : Model) : Except UnknownKind Json :=
  match query with
  | types => .ok (list TypeView.toJson model.typeViews)
  | type name => .ok (nullable TypeView.toJson (model.typeView? name))
  | kind name => do
    let kind ← Kind.ofName name
    return list TypeView.toJson (model.typeViewsOf kind)
  | relations name => .ok (nullable (list RelationView.toJson) (model.relationViews? name))
  | namespaces => .ok (list NamespaceView.toJson model.namespaceViews)
  | namespaceAt dotted =>
    .ok (nullable NamespaceView.toJson (model.namespaceView? (Namespace.pathOfDotted dotted)))
  | enum name => .ok (nullable EnumView.toJson (model.enumView? name))

end TypeGraph
