import TypeGraph.TypeDef

/-! Relations between object types, derived from the fields that are declared as relations. A field
and its inverse are the two ends of one relation; a field without an inverse is one by itself. -/
namespace TypeGraph

/-- An edge from a field to an object type, and to a field there if the two are inverse. -/
structure Relation where
  fromType : String
  fromField : String
  toType : String
  toField : Option String
  deriving DecidableEq, Repr

namespace Relation

def isBidirectional (relation : Relation) : Bool := relation.toField.isSome

/-- Whether the type is at either end. -/
def involves (relation : Relation) (typeName : String) : Bool :=
  relation.fromType == typeName || relation.toType == typeName

def oneWay (field : Field) (target : ObjectType) : Relation :=
  ⟨field.owner, field.name, target.name, none⟩

/-- The relation of two fields. The one that names the other as its inverse is the far end. -/
def ofPair (field partner : Field) : Relation :=
  if field.inverseOf.isSome && partner.inverseOf.isNone then
    ⟨partner.owner, partner.name, field.owner, some field.name⟩
  else ⟨field.owner, field.name, partner.owner, some partner.name⟩

end Relation

namespace Field

/-- Whether `candidate` is a relation back to the field's owner, and not the field itself. -/
def facedBy (field candidate : Field) : Bool :=
  candidate.isRelation && candidate.typeName == field.owner && candidate.key != field.key

/-- The relation fields of `target` that declare themselves the inverse of this field. -/
def inversesOn (field : Field) (target : ObjectType) : List Field :=
  target.fields.filter fun candidate =>
    field.facedBy candidate && candidate.inverseOf == some field.name

/-- The field at the other end among those not in `used`: the one that the field names as its
inverse, or else the first that names this field. -/
def partner? (field : Field) (target : ObjectType) (used : List (String × String)) :
    Option Field :=
  match field.inverseOf with
  | some inverse =>
    (target.field? inverse).filter fun candidate =>
      field.facedBy candidate && !used.contains candidate.key
  | none => (field.inversesOn target).find? fun candidate => !used.contains candidate.key

end Field

/-- The relations found so far, latest first, and the fields that are an end of one. -/
structure Pairing where
  relations : List Relation := []
  used : List (String × String) := []
  deriving DecidableEq, Repr

/-- Take up a relation field. One that is an end already, or whose type owns no fields, adds
nothing. -/
def Pairing.visit (scope : Scope) (pairing : Pairing) (field : Field) : Pairing :=
  if pairing.used.contains field.key then pairing
  else
    match scope.object? field.typeName with
    | none => pairing
    | some target =>
      match field.partner? target pairing.used with
      | some partner =>
        ⟨.ofPair field partner :: pairing.relations, partner.key :: field.key :: pairing.used⟩
      | none => ⟨.oneWay field target :: pairing.relations, field.key :: pairing.used⟩

/-- All relation fields, by type and within a type in the order of its fields. -/
def relationFields (types : List TypeDef) : List Field :=
  (types.filterMap (·.object?)).flatMap (·.relationFields)

/-- Every relation of the types, in the order in which their fields are met. -/
def Relation.resolve (scope : Scope) (types : List TypeDef) : List Relation :=
  ((relationFields types).foldl (Pairing.visit scope) {}).relations.reverse

end TypeGraph
