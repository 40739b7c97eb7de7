import TypeGraph.Declaration
import TypeGraph.Document.Union

/-! Reading declarations from a tree. Lists, maps and flags that are left out are empty or false;
an enum value may be given as its bare literal. -/
namespace TypeGraph

open Record (required defaulted optional)

namespace SourceLocation

def record : Record SourceLocation :=
  SourceLocation.mk
    <$> required "source" .string
    <*> optional "pointer" .string
    <*> optional "line" .word
    <*> optional "column" .word

def decode : Decoder SourceLocation := record.decode "SourceLocation"

end SourceLocation

namespace FieldDecl

def record : Record FieldDecl :=
  FieldDecl.mk
    <$> required "name" .string
    <*> required "typeName" .string
    <*> defaulted "isList" .bool false
    <*> defaulted "isReference" .bool false
    <*> defaulted "isRelation" .bool false
    <*> optional "inverseOfFieldName" .string
    <*> optional "description" .string
    <*> optional "location" SourceLocation.decode

def decode : Decoder FieldDecl := record.decode "FieldConfig"

end FieldDecl

namespace ObjectDecl

def record : Record ObjectDecl :=
  ObjectDecl.mk
    <$> required "name" .string
    <*> optional "description" .string
    <*> defaulted "namespacePath" (.list .string) []
    <*> defaulted "fields" (.list FieldDecl.decode) []
    <*> optional "keyFieldName" .string
    <*> optional "permissionProfile" .string
    <*> optional "location" SourceLocation.decode

def decode : Decoder ObjectDecl := record.decode "ObjectTypeConfig"

end ObjectDecl

namespace EnumValueDecl

def record : Record EnumValueDecl :=
  EnumValueDecl.mk
    <$> required "value" .string
    <*> optional "description" .string
    <*> optional "deprecationReason" .string
    <*> optional "location" SourceLocation.decode

/-- A bare literal, or an object; every problem of shape is the same one. -/
def ofWhole (tree : Tree) : Except Problem EnumValueDecl :=
  match tree with
  | .string (some value) => .ok ⟨value, none, none, none⟩
  | .map entries closed =>
    match (record.ofEntries .whole entries closed).run' 0 with
    | .ok value => .ok value
    | .error _ => .error (.noMatch "EnumValueInput")
  | _ => .error (.noMatch "EnumValueInput")

/-- An enum value is read whole before it is known which of its two forms it has. -/
def decode : Decoder EnumValueDecl := fun dialect tree =>
  match dialect with
  | .whole => liftM (ofWhole tree)
  | .json | .yaml => do ofWhole (← tree.readWhole dialect.depthLimit)

end EnumValueDecl

namespace EnumDecl

def record : Record EnumDecl :=
  EnumDecl.mk
    <$> required "name" .string
    <*> optional "description" .string
    <*> defaulted "values" (.list EnumValueDecl.decode) []
    <*> optional "location" SourceLocation.decode

def decode : Decoder EnumDecl := record.decode "EnumTypeConfig"

end EnumDecl

namespace ScalarDecl

def record : Record ScalarDecl :=
  ScalarDecl.mk
    <$> required "name" .string
    <*> optional "description" .string
    <*> optional "location" SourceLocation.decode

def decode : Decoder ScalarDecl := record.decode "ScalarTypeConfig"

end ScalarDecl

namespace TypeDecl

def objectVariant (kind : ObjectKind) : String × Decoder TypeDecl :=
  (kind.name, fun dialect tree => object kind <$> ObjectDecl.decode dialect tree)

/-- A type is tagged by its kind; `depth` counts the containers up to its members. -/
def union (depth : Nat) : Union TypeDecl where
  title := "TypeConfig"
  tag := "kind"
  variants := [
    objectVariant .rootEntity,
    objectVariant .childEntity,
    objectVariant .entityExtension,
    objectVariant .valueObject,
    (Kind.enum.name, fun dialect tree => enum <$> EnumDecl.decode dialect tree),
    (Kind.scalar.name, fun dialect tree => scalar <$> ScalarDecl.decode dialect tree)]
  depth := depth

end TypeDecl

def Access.decode : Decoder Access :=
  .oneOf [(Access.read.name, .read), (Access.readWrite.name, .readWrite)]

namespace Permission

def record : Record Permission :=
  Permission.mk
    <$> defaulted "roles" (.list .string) []
    <*> required "access" Access.decode

def decode : Decoder Permission := record.decode "PermissionConfig"

/-- A permission standing alone has to list its roles. -/
def strictRecord : Record Permission :=
  Permission.mk
    <$> required "roles" (.list .string)
    <*> required "access" Access.decode

def decodeStrict : Decoder Permission := strictRecord.decode "Permission"

end Permission

namespace ProfileDecl

def record : Record ProfileDecl :=
  ProfileDecl.mk
    <$> defaulted "permissions" (.list Permission.decode) []
    <*> optional "location" SourceLocation.decode

def decode : Decoder ProfileDecl := record.decode "PermissionProfileConfig"

end ProfileDecl

namespace Labels

def record : Record Labels :=
  Labels.mk
    <$> optional "label" .string
    <*> optional "hint" .string

def decode : Decoder Labels := record.decode "LabelConfig"

end Labels

namespace TypeLabels

def record : Record TypeLabels :=
  TypeLabels.mk
    <$> optional "label" .string
    <*> optional "labelPlural" .string
    <*> optional "hint" .string
    <*> defaulted "fields" (.dictionary Labels.decode) ∅
    <*> defaulted "values" (.dictionary Labels.decode) ∅

def decode : Decoder TypeLabels := record.decode "TypeLocalizationConfig"

end TypeLabels

namespace Bundle

def record : Record Bundle :=
  Bundle.mk
    <$> required "language" .string
    <*> defaulted "types" (.dictionary TypeLabels.decode) ∅
    <*> optional "location" SourceLocation.decode

def decode : Decoder Bundle := record.decode "LocalizationConfig"

end Bundle

namespace Declarations

/-- A type stands three containers deep: in the document, in its list of types, in itself. -/
def record : Record Declarations :=
  Declarations.mk
    <$> defaulted "types" (.list (TypeDecl.union 3).decode) []
    <*> defaulted "permissionProfiles" (.dictionary ProfileDecl.decode) ∅
    <*> defaulted "localizations" (.list Bundle.decode) []

def decode : Decoder Declarations := record.decode "ModelConfig"

/-- The declarations of a JSON value. -/
def ofJson? (value : Json) : Except Problem Declarations := decode.ofJson? value

end Declarations
end TypeGraph
