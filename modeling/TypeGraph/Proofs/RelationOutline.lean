import TypeGraph.Proofs.Pairing

/-! What relations depend on. Pairing sees the owner, the name, the type's name and the named inverse
of a field, and in the end only fields that are relations; so object types that have the same
relation fields, in the same order, have the same relations, whatever else they hold. -/
namespace TypeGraph

variable {types others : List TypeDef} {object target : ObjectType} {field candidate : Field}
  {fields : List Field} {used : List (String × String)} {pairing : Pairing} {change : Field → Field}
  {turn : ObjectType → ObjectType}

namespace Field

/-- A change of fields that pairing does not see. -/
structure Unseen (change : Field → Field) : Prop where
  owner : ∀ field, (change field).owner = field.owner
  name : ∀ field, (change field).name = field.name
  typeName : ∀ field, (change field).typeName = field.typeName
  isRelation : ∀ field, (change field).isRelation = field.isRelation
  inverseOf : ∀ field, (change field).inverseOf = field.inverseOf

namespace Unseen
variable (unseen : Unseen change)
include unseen

theorem key (field : Field) : (change field).key = field.key := by
  rw [Field.key, Field.key, unseen.owner, unseen.name]

theorem facedBy (field candidate : Field) :
    (change field).facedBy (change candidate) = field.facedBy candidate := by
  simp only [Field.facedBy, unseen.isRelation, unseen.typeName, unseen.owner, unseen.key]

theorem ofPair (field partner : Field) :
    Relation.ofPair (change field) (change partner) = Relation.ofPair field partner := by
  simp only [Relation.ofPair, unseen.inverseOf, unseen.owner, unseen.name]

end Unseen

/-- The search for the other end of a field, among some fields. -/
def partnerAmong? (field : Field) (fields : List Field) (used : List (String × String)) :
    Option Field :=
  match field.inverseOf with
  | some inverse =>
    (fields.find? (·.name == inverse)).filter fun candidate =>
      field.facedBy candidate && !used.contains candidate.key
  | none =>
    (fields.filter fun candidate =>
      field.facedBy candidate && candidate.inverseOf == some field.name).find?
        fun candidate => !used.contains candidate.key

theorem partner?_eq : field.partner? target used = field.partnerAmong? target.fields used := rfl

/-- Among changed fields the search ends at the same one. -/
theorem Unseen.partnerAmong?_map (unseen : Unseen change) :
    (change field).partnerAmong? (fields.map change) used =
      (field.partnerAmong? fields used).map change := by
  unfold partnerAmong?
  rw [unseen.inverseOf]
  cases field.inverseOf with
  | some inverse =>
    dsimp only
    rw [List.find?_map]
    simp only [Function.comp_def, unseen.name]
    cases fields.find? (·.name == inverse) with
    | none => rfl
    | some first =>
      simp only [Option.map_some, Option.filter_some, unseen.facedBy, unseen.key]
      split <;> rfl
  | none =>
    dsimp only
    rw [List.filter_map, List.find?_map]
    simp only [Function.comp_def, unseen.facedBy, unseen.inverseOf, unseen.name, unseen.key]

/-- Where names tell fields apart, fields that are no relations are in nobody's way. -/
theorem partnerAmong?_relations (distinct : (fields.map (·.name)).Nodup) :
    field.partnerAmong? (fields.filter (·.isRelation)) used = field.partnerAmong? fields used := by
  unfold partnerAmong?
  cases field.inverseOf with
  | some inverse =>
    have relationNames : ((fields.filter (·.isRelation)).map (·.name)).Nodup :=
      distinct.sublist (List.filter_sublist.map _)
    refine Option.ext fun partner => ?_
    simp only [Option.filter_eq_some_iff, find?_key_eq_some_iff distinct,
      find?_key_eq_some_iff relationNames, List.mem_filter]
    constructor
    · rintro ⟨⟨⟨member, _⟩, named⟩, accepted⟩
      exact ⟨⟨member, named⟩, accepted⟩
    · rintro ⟨⟨member, named⟩, accepted⟩
      have faced := (Bool.and_eq_true_iff.mp accepted).1
      exact ⟨⟨⟨member, (facedBy_iff.mp faced).1⟩, named⟩, accepted⟩
  | none =>
    dsimp only
    rw [List.filter_filter]
    refine congrArg (List.find? _) (List.filter_congr fun candidate _ => ?_)
    cases relation : candidate.isRelation <;> simp [facedBy, relation]

end Field

/-- Object types that are turned one by one are met with their fields changed one by one. -/
theorem relationFields_of_turned (objects : objectsOf others = (objectsOf types).map turn)
    (own : ∀ object, (turn object).relationFields = object.relationFields.map change) :
    relationFields others = (relationFields types).map change := by
  have listing (types : List TypeDef) :
      relationFields types = (objectsOf types).flatMap (·.relationFields) := rfl
  rw [listing, objects, List.flatMap_map, listing, List.map_flatMap]
  simp only [own]

/-- The other types show pairing the same as the types: the same fields in turn, under each name the
same object type, and for each field the same other end. -/
structure ShowsSame (types others : List TypeDef) (change : Field → Field)
    (turn : ObjectType → ObjectType) : Prop where
  unseen : Field.Unseen change
  listed : relationFields others = (relationFields types).map change
  named : ∀ object, (turn object).name = object.name
  found : ∀ name, findObject? others name = (findObject? types name).map turn
  partner : ∀ target ∈ objectsOf types, ∀ field used,
    (change field).partner? (turn target) used = (field.partner? target used).map change

namespace ShowsSame
variable (same : ShowsSame types others change turn)
include same

/-- Taking up a changed field does what taking up the field does. -/
theorem visit (pairing : Pairing) (field : Field) :
    pairing.visit (findType? others) (change field) = pairing.visit (findType? types) field := by
  unfold Pairing.visit
  rw [same.unseen.key, same.unseen.typeName, object?_findType?, object?_findType?, same.found]
  cases found : findObject? types field.typeName with
  | none => rfl
  | some target =>
    simp only [Option.map_some, same.partner target (mem_of_findObject? found).1]
    cases field.partner? target pairing.used with
    | none =>
      simp only [Option.map_none, Relation.oneWay, same.named, same.unseen.owner, same.unseen.name]
    | some partner => simp only [Option.map_some, same.unseen.ofPair, same.unseen.key]

theorem resolve : Relation.resolve (findType? others) others =
    Relation.resolve (findType? types) types := by
  unfold Relation.resolve
  rw [same.listed, List.foldl_map]
  simp only [same.visit]

end ShowsSame

namespace Field

/-- What relations can depend on in a relation field. -/
structure Outline where
  name : String
  typeName : String
  inverseOf : Option String
  deriving DecidableEq, Repr

def outline (field : Field) : Outline := ⟨field.name, field.typeName, field.inverseOf⟩

/-- A field with this outline and nothing else. -/
def Outline.toDecl (outline : Outline) : FieldDecl where
  name := outline.name
  typeName := outline.typeName
  isRelation := true
  inverseOf := outline.inverseOf

/-- The field reduced to what pairing sees. -/
def plain (field : Field) : Field :=
  .ofDecl field.owner { field.outline.toDecl with isRelation := field.isRelation }

theorem unseen_plain : Unseen plain :=
  ⟨fun _ => rfl, fun _ => rfl, fun _ => rfl, fun _ => rfl, fun _ => rfl⟩

theorem plain_of_isRelation (relation : field.isRelation = true) :
    field.plain = .ofDecl field.owner field.outline.toDecl := by
  rw [plain, relation]
  rfl

end Field

namespace ObjectType

/-- What relations can depend on in an object type: its name, and its relation fields in order. -/
structure Outline where
  name : String
  relations : List Field.Outline
  deriving DecidableEq, Repr

def outline (object : ObjectType) : Outline := ⟨object.name, object.relationFields.map (·.outline)⟩

/-- The value object with this outline. It has no other fields, not even system fields. -/
def Outline.toObject (outline : Outline) : ObjectType :=
  ⟨.valueObject, { name := outline.name, fields := outline.relations.map (·.toDecl) }⟩

/-- The object type reduced to what pairing sees. -/
def plain (object : ObjectType) : ObjectType := object.outline.toObject

theorem fields_plain : object.plain.fields = object.relationFields.map (·.plain) := by
  have system : object.plain.systemFields = [] := rfl
  have user : object.plain.userFields =
      object.relationFields.map fun field => .ofDecl object.name field.outline.toDecl := by
    simp only [plain, outline, Outline.toObject, userFields, ObjectType.name, List.map_map]
    rfl
  rw [fields, system, user, List.nil_append]
  refine List.map_congr_left fun field member => ?_
  obtain ⟨owned, relation⟩ := List.mem_filter.mp member
  rw [Field.plain_of_isRelation relation, owner_of_mem_fields owned]

theorem relationFields_plain : object.plain.relationFields = object.relationFields.map (·.plain) := by
  rw [relationFields, fields_plain, List.filter_map]
  refine congrArg (List.map Field.plain) (List.filter_eq_self.mpr fun field member => ?_)
  exact (List.mem_filter.mp member).2

end ObjectType

/-- The object types alone, each reduced to what pairing sees. -/
def plainTypes (types : List TypeDef) : List TypeDef :=
  (objectsOf types).map fun object => .declared (.object object.plain.kind object.plain.decl)

theorem objectsOf_plainTypes : objectsOf (plainTypes types) = (objectsOf types).map (·.plain) := by
  rw [objectsOf, plainTypes, List.filterMap_map]
  exact congrFun (List.filterMap_eq_map (f := ObjectType.plain)) (objectsOf types)

theorem UniqueNames.plainTypes (unique : UniqueNames types) : UniqueNames (plainTypes types) := by
  have names : (TypeGraph.plainTypes types).map (·.name) = (objectsOf types).map (·.name) := by
    simp only [TypeGraph.plainTypes, List.map_map]
    rfl
  rw [UniqueNames, names]
  exact unique.nodup_objectNames

theorem Distinct.showsSame_plainTypes (distinct : Distinct types) :
    ShowsSame types (plainTypes types) Field.plain ObjectType.plain where
  unseen := Field.unseen_plain
  listed := relationFields_of_turned objectsOf_plainTypes fun _ => ObjectType.relationFields_plain
  named _ := rfl
  found name := by
    refine Option.ext fun other => ?_
    rw [distinct.names.plainTypes.findObject?_eq_some_iff, objectsOf_plainTypes, List.mem_map,
      Option.map_eq_some_iff]
    simp only [distinct.names.findObject?_eq_some_iff]
    constructor
    · rintro ⟨⟨object, kept, rfl⟩, named⟩
      exact ⟨object, ⟨kept, named⟩, rfl⟩
    · rintro ⟨object, ⟨kept, named⟩, rfl⟩
      exact ⟨⟨object, kept, rfl⟩, named⟩
  partner target kept field used := by
    rw [Field.partner?_eq, ObjectType.fields_plain, Field.unseen_plain.partnerAmong?_map,
      ObjectType.relationFields, Field.partnerAmong?_relations (distinct.fields target kept),
      Field.partner?_eq]

namespace Model

/-- Where names tell fields apart, models whose object types have the same names and the same relation
fields, in the same order, have the same relations. No other field counts, no scalar or enum, and
neither the kind of an object type nor its key field or namespace; of a relation field only the name,
the type's name and the inverse do. -/
theorem relations_by_outline {first second : Declarations}
    (distinct : ∀ object ∈ (ofDeclarations first).objects, object.UniqueFields)
    (otherDistinct : ∀ object ∈ (ofDeclarations second).objects, object.UniqueFields)
    (same : (ofDeclarations first).objects.map (·.outline) =
      (ofDeclarations second).objects.map (·.outline)) :
    (ofDeclarations first).relations = (ofDeclarations second).relations := by
  have apart : Distinct (ofDeclarations first).types := ⟨Registry.unique_ofDecls, distinct⟩
  have otherApart : Distinct (ofDeclarations second).types := ⟨Registry.unique_ofDecls, otherDistinct⟩
  have outlines (types : List TypeDef) : plainTypes types =
      ((objectsOf types).map (·.outline)).map fun outline =>
        .declared (.object outline.toObject.kind outline.toObject.decl) := by
    rw [List.map_map]
    rfl
  have reduced : plainTypes (ofDeclarations first).types = plainTypes (ofDeclarations second).types := by
    rw [outlines, outlines]
    exact congrArg (List.map _) same
  rw [relations_eq, relations_eq, ← apart.showsSame_plainTypes.resolve, reduced]
  exact otherApart.showsSame_plainTypes.resolve

namespace Remodelled

/-- Customers and their orders; `recent` names an inverse that is not there. -/
def before : Declarations where
  types := [
    .object .rootEntity { name := "Customer", fields := [
      { name := "orders", typeName := "Order", isList := true, isRelation := true },
      { name := "recent", typeName := "Order", isRelation := true, inverseOf := some "note" }] },
    .object .rootEntity { name := "Order", fields := [
      { name := "customer", typeName := "Customer", isRelation := true,
        inverseOf := some "orders" }] }]

/-- Both types are of other kinds, there is an enum, and now the inverse is there but no relation. -/
def after : Declarations where
  types := [
    .object .childEntity { name := "Customer", namespacePath := ["sales"], fields := [
      { name := "orders", typeName := "Order", isRelation := true, isReference := true },
      { name := "status", typeName := "Status" },
      { name := "recent", typeName := "Order", isRelation := true, inverseOf := some "note" }] },
    .enum { name := "Status", values := [{ value := "GOLD" }] },
    .object .valueObject { name := "Order", keyFieldName := some "note", fields := [
      { name := "note", typeName := "Customer" },
      { name := "customer", typeName := "Customer", isRelation := true,
        inverseOf := some "orders" }] }]

theorem same_relations : before.types ≠ after.types ∧
    (ofDeclarations before).objects.map (·.outline) =
      (ofDeclarations after).objects.map (·.outline) ∧
    (ofDeclarations before).relations = (ofDeclarations after).relations := by
  have same : (ofDeclarations before).objects.map (·.outline) =
      (ofDeclarations after).objects.map (·.outline) := by decide
  refine ⟨by decide, same, relations_by_outline ?_ ?_ same⟩
  · unfold ObjectType.UniqueFields
    decide
  · unfold ObjectType.UniqueFields
    decide

end Remodelled
end Model
end TypeGraph
