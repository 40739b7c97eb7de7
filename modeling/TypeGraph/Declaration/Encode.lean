import TypeGraph.Declaration
import TypeGraph.Json

/-! The JSON form of declarations. What is absent and has no default is left out; lists, maps and
flags are always written, and an enum value is always an object. -/
namespace TypeGraph

open Json (optional list strings)

def SourceLocation.toJson (location : SourceLocation) : Json :=
  .obj <|
    [("source", .str location.source)]
    ++ optional "pointer" .str location.pointer
    ++ optional "line" (.num ·.toNat) location.line
    ++ optional "column" (.num ·.toNat) location.column

def Dictionary.toJson {α : Type} (write : α → Json) (dictionary : Dictionary α) : Json :=
  .obj (dictionary.entries.map fun entry => (entry.1, write entry.2))

def FieldDecl.toJson (field : FieldDecl) : Json :=
  .obj <|
    [("name", .str field.name),
      ("typeName", .str field.typeName),
      ("isList", .bool field.isList),
      ("isReference", .bool field.isReference),
      ("isRelation", .bool field.isRelation)]
    ++ optional "inverseOfFieldName" .str field.inverseOf
    ++ optional "description" .str field.description
    ++ optional "location" SourceLocation.toJson field.location

def ObjectDecl.members (object : ObjectDecl) : List (String × Json) :=
  [("name", .str object.name)]
  ++ optional "description" .str object.description
  ++ [("namespacePath", strings object.namespacePath),
    ("fields", list FieldDecl.toJson object.fields)]
  ++ optional "keyFieldName" .str object.keyFieldName
  ++ optional "permissionProfile" .str object.permissionProfile
  ++ optional "location" SourceLocation.toJson object.location

def EnumValueDecl.toJson (value : EnumValueDecl) : Json :=
  .obj <|
    [("value", .str value.value)]
    ++ optional "description" .str value.description
    ++ optional "deprecationReason" .str value.deprecationReason
    ++ optional "location" SourceLocation.toJson value.location

def EnumDecl.members (decl : EnumDecl) : List (String × Json) :=
  [("name", .str decl.name)]
  ++ optional "description" .str decl.description
  ++ [("values", list EnumValueDecl.toJson decl.values)]
  ++ optional "location" SourceLocation.toJson decl.location

def ScalarDecl.members (decl : ScalarDecl) : List (String × Json) :=
  [("name", .str decl.name)]
  ++ optional "description" .str decl.description
  ++ optional "location" SourceLocation.toJson decl.location

/-- The members of a type without its kind. -/
def TypeDecl.members : TypeDecl → List (String × Json)
  | .object _ decl => decl.members
  | .enum decl => decl.members
  | .scalar decl => decl.members

def TypeDecl.toJson (decl : TypeDecl) : Json :=
  .obj (("kind", .str decl.kind.name) :: decl.members)

def Permission.toJson (permission : Permission) : Json :=
  .obj [("roles", strings permission.roles), ("access", .str permission.access.name)]

def ProfileDecl.toJson (profile : ProfileDecl) : Json :=
  .obj <|
    [("permissions", list Permission.toJson profile.permissions)]
    ++ optional "location" SourceLocation.toJson profile.location

def Labels.toJson (labels : Labels) : Json :=
  .obj (optional "label" .str labels.label ++ optional "hint" .str labels.hint)

def TypeLabels.toJson (labels : TypeLabels) : Json :=
  .obj <|
    optional "label" .str labels.label
    ++ optional "labelPlural" .str labels.labelPlural
    ++ optional "hint" .str labels.hint
    ++ [("fields", labels.fields.toJson Labels.toJson),
      ("values", labels.values.toJson Labels.toJson)]

def Bundle.toJson (bundle : Bundle) : Json :=
  .obj <|
    [("language", .str bundle.language), ("types", bundle.types.toJson TypeLabels.toJson)]
    ++ optional "location" SourceLocation.toJson bundle.location

def Declarations.toJson (declarations : Declarations) : Json :=
  .obj
    [("types", list TypeDecl.toJson declarations.types),
      ("permissionProfiles", declarations.profiles.toJson ProfileDecl.toJson),
      ("localizations", list Bundle.toJson declarations.bundles)]

end TypeGraph
