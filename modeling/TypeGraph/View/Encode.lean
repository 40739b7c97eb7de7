import TypeGraph.Declaration.Encode
import TypeGraph.View

/-! The JSON form of views, messages and reports. Descriptions and inverses are left out when there
is none; the key of a root entity, the kind of a field's type, the far end of a relation and the
name of a namespace are then written as null. -/
namespace TypeGraph

open Json (optional nullable list strings)

def FieldView.toJson (view : FieldView) : Json :=
  .obj <|
    [("name", .str view.name),
      ("typeName", .str view.typeName),
      ("typeKind", nullable (.str ·.name) view.typeKind),
      ("isList", .bool view.isList),
      ("isReference", .bool view.isReference),
      ("isRelation", .bool view.isRelation),
      ("isSystemField", .bool view.isSystemField)]
    ++ optional "inverseOfFieldName" .str view.inverseOf

def ScalarView.members (view : ScalarView) : List (String × Json) :=
  [("name", .str view.name)]
  ++ optional "description" .str view.description
  ++ [("isBuiltIn", .bool view.isBuiltIn)]

def EnumValueView.toJson (view : EnumValueView) : Json :=
  .obj <|
    [("value", .str view.value)]
    ++ optional "description" .str view.description
    ++ optional "deprecationReason" .str view.deprecationReason

def EnumView.members (view : EnumView) : List (String × Json) :=
  [("name", .str view.name)]
  ++ optional "description" .str view.description
  ++ [("values", list EnumValueView.toJson view.values)]

/-- An enum view standing alone has no kind. -/
def EnumView.toJson (view : EnumView) : Json := .obj view.members

def ObjectView.members (view : ObjectView) : List (String × Json) :=
  [("name", .str view.name)]
  ++ optional "description" .str view.description
  ++ [("namespacePath", strings view.namespacePath),
    ("fields", list FieldView.toJson view.fields)]

def TypeView.members : TypeView → List (String × Json)
  | .scalar view => view.members
  | .enum view => view.members
  | .rootEntity view keyField => view.members ++ [("keyField", nullable .str keyField)]
  | .childEntity view | .entityExtension view | .valueObject view => view.members

def TypeView.toJson (view : TypeView) : Json :=
  .obj (("kind", .str view.kind.name) :: view.members)

def RelationView.toJson (view : RelationView) : Json :=
  .obj
    [("fromType", .str view.fromType),
      ("fromField", .str view.fromField),
      ("toType", .str view.toType),
      ("toField", nullable .str view.toField)]

def NamespaceView.toJson (view : NamespaceView) : Json :=
  .obj
    [("name", nullable .str view.name),
      ("path", strings view.path),
      ("isRoot", .bool view.isRoot)]

def Snapshot.toJson (snapshot : Snapshot) : Json :=
  .obj
    [("types", list TypeView.toJson snapshot.types),
      ("relations", list RelationView.toJson snapshot.relations),
      ("namespaces", list NamespaceView.toJson snapshot.namespaces)]

def Message.toJson (message : Message) : Json :=
  .obj <|
    [("severity", .str message.severity.name), ("message", .str message.text)]
    ++ optional "location" SourceLocation.toJson message.location

def Report.toJson (report : Report) : Json :=
  .obj [("messages", list Message.toJson report.messages)]

end TypeGraph
