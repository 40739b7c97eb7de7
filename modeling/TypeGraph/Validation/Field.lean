import TypeGraph.Relation
import TypeGraph.Validation.Name

/-! The rules for a field and the type it leads to: a relation links root entities and agrees with
its inverse, a reference leads to a root entity, and everything else is embedded. -/
namespace TypeGraph.Validation

open Finding (when)

/-- A named inverse exists, is a relation back to the owner, and names no inverse itself. -/
def namedInverse (field : Field) (target : ObjectType) (inverse : String) : List Finding :=
  let name := target.name ++ "." ++ inverse
  match target.field? inverse with
  | none => [.unknownInverse name field.qualifiedName]
  | some other =>
    if !other.isRelation then [.inverseNoRelation name field.qualifiedName]
    else if other.typeName != field.owner then
      [.inverseType name field.qualifiedName other.typeName field.owner]
    else when other.inverseOf.isSome (.inverseOfInverse name field.qualifiedName)

/-- At most one field names this one as its inverse. -/
def inverses (field : Field) (target : ObjectType) : List Finding :=
  let found := field.inversesOn target
  when (found.length > 1)
    (.severalInverses (found.map (·.qualifiedName)) field.name field.qualifiedName)

/-- A relation leads from a root entity to a root entity. -/
def relation (scope : Scope) (field : Field) (target : TypeDef) : List Finding :=
  let owner := (scope field.owner).bind (·.root?)
  when owner.isNone .relationOutsideRoot
  ++ match target.root? with
    | none => [.relationTarget target.name]
    | some root =>
      match field.inverseOf with
      | some inverse => namedInverse field root inverse
      | none => inverses field root

/-- A reference leads to a root entity, by convention to one with a key field. -/
def reference (target : TypeDef) : List Finding :=
  match target.root? with
  | none => [.referenceTarget target.name]
  | some root => when root.decl.keyFieldName.isNone (.referenceWithoutKey root.name)

/-- Root entities are not embedded, child entities only in lists, and extensions only outside. -/
def embedding (field : Field) (target : TypeDef) : List Finding :=
  match target.kind with
  | .object .rootEntity => [.embeddedRoot target.name]
  | .object .childEntity => when (!field.isList) (.childOutsideList target.name)
  | .object .entityExtension => when field.isList (.extensionInList target.name)
  | .object .valueObject | .scalar | .enum => []

/-- The rules that ask for the field's type. -/
def fieldTarget (scope : Scope) (field : Field) (target : TypeDef) : List Finding :=
  if field.isRelation then relation scope field target
  else if field.isReference then reference target
  else embedding field target

/-- All findings about a declared field; of a system field there are none. -/
def fieldFindings (scope : Scope) (field : Field) : List Finding :=
  if field.isSystem then []
  else
    let target := scope field.typeName
    fieldName field.name
    ++ when target.isNone (.unknownType field.typeName)
    ++ when (field.isRelation && field.isReference) (.relationAndReference field.qualifiedName)
    ++ when (field.inverseOf.isSome && !field.isRelation) .misplacedInverse
    ++ match target with
      | none => []
      | some target => fieldTarget scope field target

def field (scope : Scope) (field : Field) : List Diagnostic :=
  Finding.locate field.location (fieldFindings scope field)

end TypeGraph.Validation
