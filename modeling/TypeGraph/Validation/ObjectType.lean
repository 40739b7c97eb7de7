import TypeGraph.Validation.Field

/-! The rules for object types. -/
namespace TypeGraph.Validation

open Finding (when)

/-- Fields gathered by their names. The groups stand in the order in which their names came up. -/
structure FieldGroups where
  groups : List (List Field)
  /-- The position of the group of each name. -/
  groupOf : Dictionary Nat

namespace FieldGroups

def empty : FieldGroups := ⟨[], ∅⟩

/-- A field joins the group of its name, or opens it behind the others. -/
def add (gathered : FieldGroups) (field : Field) : FieldGroups :=
  match gathered.groupOf.get? field.name with
  | some position => { gathered with groups := gathered.groups.modify position (· ++ [field]) }
  | none =>
    { groups := gathered.groups ++ [[field]]
      groupOf := gathered.groupOf.insert field.name gathered.groups.length }

def ofFields (fields : List Field) : FieldGroups := fields.foldl add empty

end FieldGroups

/-- What is wrong with several fields of one name. Only declared fields are blamed, since nobody wrote
a system field, and they are told if a system field has their name. -/
def clash (group : List Field) : List Diagnostic :=
  let reserved := group.any (·.isSystem)
  (group.filter (!·.isSystem)).map fun field =>
    let finding :=
      if reserved then Finding.reservedFieldName field.name else .duplicateFieldName field.name
    ⟨finding, field.location⟩

def duplicateFields (object : ObjectType) : List Diagnostic :=
  ((FieldGroups.ofFields object.fields).groups.filter (1 < ·.length)).flatMap clash

/-- Findings about the type as a whole. -/
def objectFindings (object : ObjectType) : List Finding :=
  let badSegments := object.namespacePath.filter (!Identifier.isValid ·)
  typeName object.name
  ++ badSegments.map (.invalidNamespaceSegment · object.name)
  ++ when (!object.isRoot && object.decl.keyFieldName.isSome) (.misplacedKeyField object.name)
  ++ when (!object.isRoot && object.decl.permissionProfile.isSome) (.misplacedProfile object.name)
  ++ when object.decl.fields.isEmpty (.noFields object.name)

/-- A key field exists, is single, and holds a scalar or an enum value. -/
def keyField (scope : Scope) (root : ObjectType) (name : String) : List Finding :=
  match root.field? name with
  | none => [.unknownKeyField name root.name]
  | some field =>
    when field.isList (.listKeyField field.qualifiedName)
    ++ match scope field.typeName with
      | none => []
      | some type => when type.kind.isObject (.keyFieldType field.qualifiedName type.name)

/-- What a root entity names beside its fields: a key field and a permission profile. -/
def rootFindings (scope : Scope) (profiles : Dictionary ProfileDecl) (root : ObjectType) :
    List Finding :=
  (match root.decl.keyFieldName with
    | none => []
    | some name => keyField scope root name)
  ++ match root.decl.permissionProfile with
    | none => []
    | some name => when (!profiles.contains name) (.unknownProfile name)

def objectType (scope : Scope) (profiles : Dictionary ProfileDecl) (object : ObjectType) :
    List Diagnostic :=
  Finding.locate object.location (objectFindings object)
  ++ duplicateFields object
  ++ object.fields.flatMap (field scope)
  ++ Finding.locate object.location
    (if object.isRoot then rootFindings scope profiles object else [])

end TypeGraph.Validation
