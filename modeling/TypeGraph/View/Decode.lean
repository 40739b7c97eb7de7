import TypeGraph.Declaration.Decode
import TypeGraph.View

/-! Reading views, messages and reports back from a tree. All members but those that may be null
have to be there. -/
namespace TypeGraph

open Record (required optional nullable)

def namedKind (kind : Kind) : String × Kind := (kind.name, kind)

def Kind.decode : Decoder Kind := .oneOf (Kind.all.map namedKind)

def Severity.decode : Decoder Severity :=
  .oneOf [(Severity.error.name, .error), (Severity.warning.name, .warning)]

namespace Message

def record : Record Message :=
  Message.mk
    <$> required "severity" Severity.decode
    <*> required "message" .string
    <*> optional "location" SourceLocation.decode

def decode : Decoder Message := record.decode "ValidationMessage"

end Message

namespace Report

def record : Record Report := Report.mk <$> required "messages" (.list Message.decode)

def decode : Decoder Report := record.decode "ValidationResult"

end Report

namespace FieldView

def record : Record FieldView :=
  FieldView.mk
    <$> required "name" .string
    <*> required "typeName" .string
    <*> nullable "typeKind" Kind.decode
    <*> required "isList" .bool
    <*> required "isReference" .bool
    <*> required "isRelation" .bool
    <*> required "isSystemField" .bool
    <*> optional "inverseOfFieldName" .string

def decode : Decoder FieldView := record.decode "FieldView"

end FieldView

namespace ScalarView

def record : Record ScalarView :=
  ScalarView.mk
    <$> required "name" .string
    <*> optional "description" .string
    <*> required "isBuiltIn" .bool

def decode : Decoder ScalarView := record.decode "ScalarTypeView"

end ScalarView

namespace EnumValueView

def record : Record EnumValueView :=
  EnumValueView.mk
    <$> required "value" .string
    <*> optional "description" .string
    <*> optional "deprecationReason" .string

def decode : Decoder EnumValueView := record.decode "EnumValueView"

end EnumValueView

namespace EnumView

def record : Record EnumView :=
  EnumView.mk
    <$> required "name" .string
    <*> optional "description" .string
    <*> required "values" (.list EnumValueView.decode)

def decode : Decoder EnumView := record.decode "EnumTypeView"

end EnumView

namespace ObjectView

def record : Record ObjectView :=
  ObjectView.mk
    <$> required "name" .string
    <*> optional "description" .string
    <*> required "namespacePath" (.list .string)
    <*> required "fields" (.list FieldView.decode)

def decode : Decoder ObjectView := record.decode "ObjectTypeView"

end ObjectView

namespace TypeView

/-- Decode the key field among the members of a root entity; the other members are kept. -/
def readKeyField (found : Option (Option String)) :
    List (Tree × Tree) → Reading (Option String × List (Tree × Tree))
  | [] => return (found.join, [])
  | (.string (some "keyField"), value) :: rest => do
    if found.isSome then Reading.fail (.duplicateField "keyField")
    let keyField ← Decoder.nullable .string .whole value
    readKeyField (some keyField) rest
  | entry :: rest => do
    let (keyField, others) ← readKeyField found rest
    return (keyField, entry :: others)

/-- The members of a root entity are those of an object and its key field, in one map. -/
def decodeRoot : Decoder TypeView := fun _ tree =>
  match tree with
  | .map entries _ => do
    let (keyField, others) ← readKeyField none entries
    let view ← ObjectView.record.ofEntries .whole others true
    return rootEntity view keyField
  | other => .fail (other.mismatch "struct RootEntityTypeView")

def objectVariant (kind : ObjectKind) (make : ObjectView → TypeView) :
    String × Decoder TypeView :=
  (kind.name, fun dialect tree => make <$> ObjectView.decode dialect tree)

/-- A view is tagged by its kind; `depth` counts the containers up to its members. -/
def union (depth : Nat) : Union TypeView where
  title := "TypeView"
  tag := "kind"
  variants := [
    (Kind.scalar.name, fun dialect tree => scalar <$> ScalarView.decode dialect tree),
    (Kind.enum.name, fun dialect tree => enum <$> EnumView.decode dialect tree),
    (ObjectKind.rootEntity.name, decodeRoot),
    objectVariant .childEntity childEntity,
    objectVariant .entityExtension entityExtension,
    objectVariant .valueObject valueObject]
  depth := depth

end TypeView

namespace RelationView

def record : Record RelationView :=
  RelationView.mk
    <$> required "fromType" .string
    <*> required "fromField" .string
    <*> required "toType" .string
    <*> nullable "toField" .string

def decode : Decoder RelationView := record.decode "RelationView"

end RelationView

namespace NamespaceView

def record : Record NamespaceView :=
  NamespaceView.mk
    <$> nullable "name" .string
    <*> required "path" (.list .string)
    <*> required "isRoot" .bool

def decode : Decoder NamespaceView := record.decode "NamespaceView"

end NamespaceView

namespace Snapshot

def record : Record Snapshot :=
  Snapshot.mk
    <$> required "types" (.list (TypeView.union 3).decode)
    <*> required "relations" (.list RelationView.decode)
    <*> required "namespaces" (.list NamespaceView.decode)

def decode : Decoder Snapshot := record.decode "ModelSnapshot"

end Snapshot
end TypeGraph
