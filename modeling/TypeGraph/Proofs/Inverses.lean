import TypeGraph.Relation
import TypeGraph.Proofs.Lookup
import TypeGraph.Proofs.WellFormed

/-! Which fields face each other. Only declared fields are relations, and the two searches for the
other end of a relation field are read as conditions on what they find. -/
namespace TypeGraph

variable {types : List TypeDef} {object target : ObjectType} {field candidate partner inverse other : Field}
  {used : List (String × String)}

namespace Field

@[simp] theorem owner_ofDecl (owner : String) (decl : FieldDecl) : (ofDecl owner decl).owner = owner :=
  rfl

@[simp] theorem decl_ofDecl (owner : String) (decl : FieldDecl) : (ofDecl owner decl).decl = decl :=
  rfl

@[simp] theorem name_ofDecl (owner : String) (decl : FieldDecl) :
    (ofDecl owner decl).name = decl.name := rfl

theorem facedBy_iff : field.facedBy candidate = true ↔
    candidate.isRelation = true ∧ candidate.typeName = field.owner ∧ candidate.key ≠ field.key := by
  simp [facedBy, and_assoc]

theorem mem_inversesOn_iff : candidate ∈ field.inversesOn target ↔
    candidate ∈ target.fields ∧ field.facedBy candidate = true ∧
      candidate.inverseOf = some field.name := by
  simp [inversesOn]

/-- The field calls itself the other end of a field that names no inverse. -/
structure Inverts (inverse field : Field) : Prop where
  back : inverse.typeName = field.owner
  there : inverse.owner = field.typeName
  forward : field.inverseOf = none
  names : inverse.inverseOf = some field.name

theorem Inverts.key_eq (left : inverse.Inverts field) (right : inverse.Inverts other) :
    field.key = other.key := by
  have sameOwner := left.back.symm.trans right.back
  have sameName := Option.some.inj (left.names.symm.trans right.names)
  rw [key, key, sameOwner, sameName]

/-- No field is forward and an inverse at once. -/
theorem Inverts.not_forward (inverts : inverse.Inverts field) : inverse.inverseOf ≠ none := by
  rw [inverts.names]
  exact Option.some_ne_none _

/-- Whether the field names the other one as its inverse, and the two lead to each other. -/
def claims (field other : Field) : Bool :=
  field.inverseOf == some other.name && other.owner == field.typeName && field.facedBy other

theorem claims_iff : field.claims other = true ↔
    field.inverseOf = some other.name ∧ other.owner = field.typeName ∧ field.facedBy other = true := by
  simp [claims, and_assoc]

/-- One of two fields names the other: the first does, or it names none and the second does. -/
def Joins (field partner : Field) : Prop :=
  field.inverseOf = some partner.name ∨
    field.inverseOf = none ∧ partner.inverseOf = some field.name

theorem of_partner? (found : field.partner? target used = some partner) :
    partner ∈ target.fields ∧ field.facedBy partner = true ∧ partner.key ∉ used ∧
      field.Joins partner := by
  unfold partner? at found
  split at found
  · next inverse names =>
    obtain ⟨here, accepted⟩ := Option.filter_eq_some_iff.mp found
    obtain ⟨member, rfl⟩ := mem_of_field? here
    simp only [Bool.and_eq_true, Bool.not_eq_true', List.contains_eq_mem, decide_eq_false_iff_not]
      at accepted
    exact ⟨member, accepted.1, accepted.2, .inl names⟩
  · next forward =>
    obtain ⟨member, faced, names⟩ := mem_inversesOn_iff.mp (List.mem_of_find?_eq_some found)
    have free := List.find?_some found
    exact ⟨member, faced, by simpa using free, .inr ⟨forward, names⟩⟩

/-- A field that names its inverse gets it, if it leads back and is still free. -/
theorem partner?_of_names (unique : target.UniqueFields) (member : partner ∈ target.fields)
    (names : field.inverseOf = some partner.name) (faced : field.facedBy partner = true)
    (free : partner.key ∉ used) : field.partner? target used = some partner := by
  have here := unique.field?_eq_some_iff.mpr ⟨member, rfl⟩
  simp [partner?, names, here, faced, free]

/-- A field that names no inverse gets one, if any that names it is still free. -/
theorem partner?_isSome_of_inverse (forward : field.inverseOf = none)
    (inverse : candidate ∈ field.inversesOn target) (free : candidate.key ∉ used) :
    ∃ partner, field.partner? target used = some partner := by
  apply Option.isSome_iff_exists.mp
  simp only [partner?, forward, List.find?_isSome]
  exact ⟨candidate, inverse, by simpa using free⟩

end Field

namespace ObjectType

theorem of_mem_systemFields (member : field ∈ object.systemFields) :
    ∃ name ∈ systemFieldNames, ∃ scalar, field = .system object.name name scalar := by
  unfold systemFields at member
  split at member
  · simp only [Field.systemFields, List.mem_cons, List.not_mem_nil, or_false] at member
    rcases member with rfl | rfl | rfl <;> exact ⟨_, by decide, _, rfl⟩
  · simp at member

theorem system_mem_fields (entity : object.kind.isEntity = true) {name : String}
    (reserved : name ∈ systemFieldNames) :
    ∃ scalar, .system object.name name scalar ∈ object.fields := by
  simp only [systemFieldNames, List.mem_cons, List.not_mem_nil, or_false] at reserved
  rcases reserved with rfl | rfl | rfl
  · exact ⟨.id, by simp [fields, systemFields, entity, Field.systemFields]⟩
  · exact ⟨.dateTime, by simp [fields, systemFields, entity, Field.systemFields]⟩
  · exact ⟨.dateTime, by simp [fields, systemFields, entity, Field.systemFields]⟩

/-- The fields of a type are its system fields and those that it declares. -/
theorem mem_fields_iff : field ∈ object.fields ↔
    field ∈ object.systemFields ∨ ∃ decl ∈ object.decl.fields, field = .ofDecl object.name decl := by
  simp [fields, userFields, eq_comm]

/-- Without the system fields the declared ones are left. -/
theorem filter_not_isSystem : object.fields.filter (!·.isSystem) = object.userFields := by
  have none : object.systemFields.filter (!·.isSystem) = [] := by
    refine List.filter_eq_nil_iff.mpr fun field member => ?_
    obtain ⟨name, _, scalar, rfl⟩ := of_mem_systemFields member
    simp [Field.system]
  have all : object.userFields.filter (!·.isSystem) = object.userFields := by
    refine List.filter_eq_self.mpr fun field member => ?_
    obtain ⟨decl, _, rfl⟩ := List.mem_map.mp member
    rfl
  rw [fields, List.filter_append, none, all, List.nil_append]

theorem ofDecl_mem_fields {decl : FieldDecl} (declared : decl ∈ object.decl.fields) :
    .ofDecl object.name decl ∈ object.fields :=
  mem_fields_iff.mpr (.inr ⟨decl, declared, rfl⟩)

theorem owner_of_mem_fields (member : field ∈ object.fields) : field.owner = object.name := by
  rcases mem_fields_iff.mp member with system | ⟨decl, _, rfl⟩
  · obtain ⟨name, _, scalar, rfl⟩ := of_mem_systemFields system
    rfl
  · rfl

/-- Relations are declared; no system field is one. -/
theorem declared_of_isRelation (member : field ∈ object.fields) (relation : field.isRelation = true) :
    ∃ decl ∈ object.decl.fields, field = .ofDecl object.name decl := by
  rcases mem_fields_iff.mp member with system | declared
  · obtain ⟨name, _, scalar, rfl⟩ := of_mem_systemFields system
    cases relation
  · exact declared

end ObjectType

/-- The inverses of a forward field are the declared fields that claim it; it is none of them. -/
theorem UniqueNames.mem_inversesOn_iff (unique : UniqueNames types) (source : object ∈ objectsOf types)
    (uniqueFields : object.UniqueFields) (aim : target ∈ objectsOf types) {decl : FieldDecl}
    (declared : decl ∈ object.decl.fields) (forward : decl.inverseOf = none) :
    candidate ∈ (Field.ofDecl object.name decl).inversesOn target ↔
      ∃ other ∈ target.decl.fields,
        other.Inverts object.name decl.name ∧ candidate = .ofDecl target.name other := by
  rw [Field.mem_inversesOn_iff, Field.facedBy_iff]
  constructor
  · intro listed
    obtain ⟨member, ⟨relation, back, -⟩, names⟩ := listed
    obtain ⟨other, here, rfl⟩ := ObjectType.declared_of_isRelation member relation
    exact ⟨other, here, ⟨relation, back, names⟩, rfl⟩
  · intro declared
    obtain ⟨other, here, ⟨relation, back, names⟩, rfl⟩ := declared
    refine ⟨ObjectType.ofDecl_mem_fields here, ⟨relation, back, ?_⟩, names⟩
    intro same
    obtain ⟨sameOwner, sameName⟩ := Prod.mk.inj same
    cases unique.object_eq aim source sameOwner
    have fieldSame := List.inj_on_of_nodup_map uniqueFields (ObjectType.ofDecl_mem_fields here)
      (ObjectType.ofDecl_mem_fields declared) sameName
    have declSame : other = decl := congrArg Field.decl fieldSame
    rw [declSame, forward] at names
    cases names

theorem mem_relationFields_iff : field ∈ relationFields types ↔
    ∃ object ∈ objectsOf types, field ∈ object.fields ∧ field.isRelation = true := by
  simp [relationFields, objectsOf, ObjectType.relationFields]

/-- The type of a relation field is found under the name of the field's owner. -/
theorem UniqueNames.findObject?_owner (unique : UniqueNames types)
    (member : field ∈ relationFields types) :
    ∃ object, findObject? types field.owner = some object ∧ field ∈ object.fields := by
  obtain ⟨object, kept, owned, _⟩ := mem_relationFields_iff.mp member
  have same := (ObjectType.owner_of_mem_fields owned).symm
  exact ⟨object, unique.findObject?_eq_some_iff.mpr ⟨kept, same⟩, owned⟩

/-- A relation field stands on the type that its owner names. -/
theorem UniqueNames.mem_fields_of_owner (unique : UniqueNames types) (kept : object ∈ objectsOf types)
    (listed : field ∈ relationFields types) (owner : field.owner = object.name) :
    field ∈ object.fields ∧ field.isRelation = true := by
  obtain ⟨other, here, member, relation⟩ := mem_relationFields_iff.mp listed
  have same : other.name = object.name := by
    rw [← ObjectType.owner_of_mem_fields member, owner]
  cases unique.object_eq here kept same
  exact ⟨member, relation⟩

/-- The relation fields of the type that one leads to are those with that owner. -/
theorem UniqueNames.mem_target_iff (unique : UniqueNames types)
    (found : findObject? types field.typeName = some target) :
    other ∈ target.fields ∧ other.isRelation = true ↔
      other ∈ relationFields types ∧ other.owner = field.typeName := by
  obtain ⟨kept, named⟩ := mem_of_findObject? found
  constructor
  · intro owned
    obtain ⟨member, relation⟩ := owned
    exact ⟨mem_relationFields_iff.mpr ⟨target, kept, member, relation⟩,
      (ObjectType.owner_of_mem_fields member).trans named⟩
  · intro elsewhere
    obtain ⟨listed, owner⟩ := elsewhere
    exact unique.mem_fields_of_owner kept listed (owner.trans named.symm)

/-- The other end of a field is one that it claims, or its inverse. -/
theorem UniqueNames.claims_or_inverts (unique : UniqueNames types)
    (found : findObject? types field.typeName = some target)
    (chosen : field.partner? target used = some partner) :
    partner ∈ relationFields types ∧ (field.claims partner = true ∨ partner.Inverts field) := by
  obtain ⟨here, faced, _, joins⟩ := Field.of_partner? chosen
  obtain ⟨relation, back, _⟩ := Field.facedBy_iff.mp faced
  obtain ⟨listed, owner⟩ := (unique.mem_target_iff found).mp ⟨here, relation⟩
  refine ⟨listed, ?_⟩
  rcases joins with names | ⟨forward, names⟩
  · exact .inl (Field.claims_iff.mpr ⟨names, owner, faced⟩)
  · exact .inr ⟨back, owner, forward, names⟩

/-- Names tell types apart, and the fields of each type. -/
structure Distinct (types : List TypeDef) : Prop where
  names : UniqueNames types
  fields : ∀ object ∈ objectsOf types, object.UniqueFields

namespace Distinct
variable (distinct : Distinct types)
include distinct

/-- They tell all relation fields apart. -/
theorem nodup_keys : ((relationFields types).map (·.key)).Nodup := by
  rw [relationFields, List.map_flatMap]
  refine List.nodup_flatMap.mpr ⟨?_, ?_⟩
  · intro object member
    have names : (object.relationFields.map (·.name)).Nodup :=
      (distinct.fields object member).sublist (List.filter_sublist.map _)
    exact List.Nodup.of_map Prod.snd (by simpa [Function.comp_def, Field.key] using names)
  · refine (List.pairwise_map.mp distinct.names.nodup_objectNames).imp ?_
    intro first second apart key left right
    obtain ⟨field, member, rfl⟩ := List.mem_map.mp left
    obtain ⟨other, otherMember, same⟩ := List.mem_map.mp right
    apply apart
    rw [← ObjectType.owner_of_mem_fields (List.mem_of_mem_filter member),
      ← ObjectType.owner_of_mem_fields (List.mem_of_mem_filter otherMember)]
    exact (congrArg Prod.fst same).symm

theorem field_eq (left : field ∈ relationFields types) (right : other ∈ relationFields types)
    (same : field.key = other.key) : field = other :=
  List.inj_on_of_nodup_map distinct.nodup_keys left right same

/-- A field and its inverse are not the same, and are found on each other's types. -/
theorem ends_of_inverts (member : field ∈ relationFields types)
    (answered : inverse ∈ relationFields types) (inverts : inverse.Inverts field) :
    inverse.key ≠ field.key ∧ field.facedBy inverse = true ∧ inverse.facedBy field = true := by
  obtain ⟨_, _, _, relation⟩ := mem_relationFields_iff.mp member
  obtain ⟨_, _, _, inverseRelation⟩ := mem_relationFields_iff.mp answered
  have apart : inverse.key ≠ field.key := by
    intro same
    cases distinct.field_eq answered member same
    exact inverts.not_forward inverts.forward
  exact ⟨apart, Field.facedBy_iff.mpr ⟨inverseRelation, inverts.back, apart⟩,
    Field.facedBy_iff.mpr ⟨relation, inverts.there.symm, apart.symm⟩⟩

end Distinct
end TypeGraph
