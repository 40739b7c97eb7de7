import TypeGraph.BuiltIn
import TypeGraph.Declaration
import TypeGraph.Identifier

/-! When declarations make sense together. The predicates speak of declarations alone: a name stands
for any declaration that bears it, and neither the order of declarations nor a lookup enters. -/
namespace TypeGraph

/-- The fields that entities have without declaring them. -/
def systemFieldNames : List String := ["id", "createdAt", "updatedAt"]

/-- A type of this kind may stand inside another one: children in lists, extensions outside. -/
def ObjectKind.Embeds : ObjectKind → (inList : Bool) → Prop
  | .rootEntity, _ => False
  | .childEntity, inList => inList = true
  | .entityExtension, inList => inList = false
  | .valueObject, _ => True

structure EnumDecl.WellFormed (decl : EnumDecl) : Prop where
  nonempty : decl.values ≠ []
  distinct : (decl.values.map (·.value)).Nodup
  valid : ∀ value ∈ decl.values, Identifier.isValid value.value = true
  unreserved : ∀ value ∈ decl.values, value.value ∉ Identifier.reservedLiterals

namespace FieldDecl

/-- The field calls itself the other end of the relation field `name` of type `owner`. -/
structure Inverts (field : FieldDecl) (owner name : String) : Prop where
  relation : field.isRelation = true
  back : field.typeName = owner
  names : field.inverseOf = some name

/-- A relation field of type `owner` and its target agree on the other end: a named inverse leads
back and names no inverse itself, and one field at most claims to be the inverse of a forward one. -/
def AgreesWith (field : FieldDecl) (owner : String) (target : ObjectDecl) : Prop :=
  match field.inverseOf with
  | some name => ∃ other ∈ target.fields,
      other.name = name ∧ other.isRelation = true ∧ other.typeName = owner ∧ other.inverseOf = none
  | none => ∀ first ∈ target.fields, ∀ second ∈ target.fields,
      first.Inverts owner field.name → second.Inverts owner field.name → first = second

end FieldDecl

namespace Declarations
variable (declarations : Declarations)

def KnowsType (name : String) : Prop :=
  name ∈ BuiltIn.names ∨ name ∈ declarations.types.map (·.name)

/-- A root entity of this name is declared like this. -/
def HasRoot (name : String) (decl : ObjectDecl) : Prop :=
  .object .rootEntity decl ∈ declarations.types ∧ decl.name = name

/-- No object type has the name. -/
def IsLeaf (name : String) : Prop :=
  ∀ kind decl, .object kind decl ∈ declarations.types → decl.name ≠ name

structure FieldWellFormed (kind : ObjectKind) (owner : String) (field : FieldDecl) : Prop where
  name : Identifier.isValid field.name = true
  type : declarations.KnowsType field.typeName
  exclusive : field.isRelation = true → field.isReference = false
  inverse : field.inverseOf.isSome = true → field.isRelation = true
  relation : field.isRelation = true → kind = .rootEntity ∧
    ∃ target, declarations.HasRoot field.typeName target ∧ field.AgreesWith owner target
  reference : field.isReference = true → ∃ target, declarations.HasRoot field.typeName target
  embedding : field.isRelation = false → field.isReference = false →
    ∀ targetKind target, .object targetKind target ∈ declarations.types →
      target.name = field.typeName → targetKind.Embeds field.isList

/-- The name is that of a system field, or of a declared field that holds a single leaf value. -/
def KeyWellFormed (decl : ObjectDecl) (name : String) : Prop :=
  name ∈ systemFieldNames ∨ ∃ field ∈ decl.fields,
    field.name = name ∧ field.isList = false ∧ declarations.IsLeaf field.typeName

structure ObjectWellFormed (kind : ObjectKind) (decl : ObjectDecl) : Prop where
  path : ∀ segment ∈ decl.namespacePath, Identifier.isValid segment = true
  nonempty : decl.fields ≠ []
  distinct : (decl.fields.map (·.name)).Nodup
  unreserved : kind.isEntity = true → ∀ field ∈ decl.fields, field.name ∉ systemFieldNames
  fields : ∀ field ∈ decl.fields, declarations.FieldWellFormed kind decl.name field
  key : ∀ name, decl.keyFieldName = some name →
    kind = .rootEntity ∧ declarations.KeyWellFormed decl name
  profile : ∀ name, decl.permissionProfile = some name →
    kind = .rootEntity ∧ declarations.profiles.contains name = true

def TypeWellFormed : TypeDecl → Prop
  | .scalar _ => True
  | .enum decl => decl.WellFormed
  | .object kind decl => declarations.ObjectWellFormed kind decl

/-- Every rule about names, types, fields, keys and profiles holds; conventions and labels do not
count. -/
structure WellFormed : Prop where
  distinct : (declarations.types.map (·.name)).Nodup
  valid : ∀ decl ∈ declarations.types, Identifier.isValid decl.name = true
  unbuilt : ∀ decl ∈ declarations.types, decl.name ∉ BuiltIn.names
  types : ∀ decl ∈ declarations.types, declarations.TypeWellFormed decl
  roles : ∀ profile ∈ declarations.profiles.values, ∀ permission ∈ profile.permissions,
    permission.roles ≠ []

end Declarations
end TypeGraph
