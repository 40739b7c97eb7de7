import TypeGraph.Proofs.Inverses
import TypeGraph.Proofs.Registry
import Mathlib.Data.List.Induction
import Mathlib.Data.List.Pairwise

/-! How fields are paired. They are taken up one after the other, and the ends of the relations found
are at all times the fields used, each of them once; in the end these are all fields that can be an
end. Nothing is asked of the declarations. -/
namespace TypeGraph

variable {types : List TypeDef} {field partner inverse : Field} {target : ObjectType}

namespace Relation

def start (relation : Relation) : String × String := (relation.fromType, relation.fromField)

/-- The fields that the relation joins: where it starts, and the one there if it has one. -/
def ends (relation : Relation) : List (String × String) :=
  relation.start :: (relation.toField.map fun field => (relation.toType, field)).toList

/-- Whichever way round, a pair has its two fields as ends. -/
theorem ends_ofPair : (ofPair field partner).ends.Perm [partner.key, field.key] := by
  unfold ofPair
  split
  · exact .refl _
  · exact .swap ..

/-- Whichever end is met first, the relation leads from the forward field to its inverse. -/
theorem ofPair_of_inverts (inverts : inverse.Inverts field) :
    ofPair field inverse = ⟨field.owner, field.name, field.typeName, some inverse.name⟩ ∧
      ofPair inverse field = ⟨field.owner, field.name, field.typeName, some inverse.name⟩ := by
  simp [ofPair, inverts.forward, inverts.names, inverts.there]

end Relation

namespace Pairing

/-- All that taking up a field can do. -/
inductive Step (types : List TypeDef) (before : Pairing) (field : Field) : Pairing → Prop where
  | used (taken : field.key ∈ before.used) : Step types before field before
  | lost (free : field.key ∉ before.used) (missing : findObject? types field.typeName = none) :
      Step types before field before
  | paired {target : ObjectType} {partner : Field} (free : field.key ∉ before.used)
      (found : findObject? types field.typeName = some target)
      (chosen : field.partner? target before.used = some partner) :
      Step types before field
        ⟨.ofPair field partner :: before.relations, partner.key :: field.key :: before.used⟩
  | alone {target : ObjectType} (free : field.key ∉ before.used)
      (found : findObject? types field.typeName = some target)
      (refused : field.partner? target before.used = none) :
      Step types before field ⟨.oneWay field target :: before.relations, field.key :: before.used⟩

variable {before after : Pairing} {done fields : List Field}

theorem visit_step (types : List TypeDef) (before : Pairing) (field : Field) :
    Step types before field (before.visit (findType? types) field) := by
  unfold visit
  by_cases taken : field.key ∈ before.used
  · simpa [taken] using Step.used taken
  · simp only [List.contains_iff_mem, taken, if_false, object?_findType?]
    cases found : findObject? types field.typeName with
    | none => exact .lost taken found
    | some target =>
      dsimp only
      cases chosen : field.partner? target before.used with
      | some partner => exact .paired taken found chosen
      | none => exact .alone taken found chosen

theorem visit_of_partner? (free : field.key ∉ before.used)
    (found : findObject? types field.typeName = some target)
    (chosen : field.partner? target before.used = some partner) :
    before.visit (findType? types) field =
      ⟨.ofPair field partner :: before.relations, partner.key :: field.key :: before.used⟩ := by
  simp [visit, free, found, chosen]

/-- The pairing after some fields have been taken up. -/
def run (types : List TypeDef) (fields : List Field) : Pairing :=
  fields.foldl (visit (findType? types)) {}

theorem run_append_singleton :
    run types (done ++ [field]) = (run types done).visit (findType? types) field := by
  simp [run]

/-- What holds at first and is kept by taking up the next field holds of every run. -/
theorem run_induction {motive : List Field → Pairing → Prop} (initial : motive [] {})
    (step : ∀ done field before after, done ++ [field] <+: fields → motive done before →
      Step types before field after → motive (done ++ [field]) after) :
    motive fields (run types fields) := by
  have reached (done : List Field) (within : done <+: fields) : motive done (run types done) := by
    induction done using List.reverseRecOn with
    | nil => exact initial
    | append_singleton done field ih =>
      have earlier := ih ((List.prefix_append done [field]).trans within)
      rw [run_append_singleton]
      exact step done field _ _ within earlier (visit_step types _ field)
  exact reached fields (List.prefix_refl fields)

theorem Step.grows (step : Step types before field after) : before.used ⊆ after.used := by
  cases step with
  | used | lost => exact List.Subset.refl _
  | paired => exact List.Subset.trans (List.subset_cons_self ..) (List.subset_cons_self ..)
  | alone => exact List.subset_cons_self ..

theorem Step.keeps (step : Step types before field after) : before.relations ⊆ after.relations := by
  cases step with
  | used | lost => exact List.Subset.refl _
  | paired | alone => exact List.subset_cons_self ..

/-- What is found at some time is there in the end. -/
theorem run_relations_subset (rest : List Field) :
    (run types done).relations ⊆ (run types (done ++ rest)).relations := by
  induction rest using List.reverseRecOn with
  | nil => simp
  | append_singleton rest field ih =>
    rw [← List.append_assoc, run_append_singleton]
    exact List.Subset.trans ih (visit_step types _ field).keeps

/-- A field that leads to an object type is used once it has been taken up. -/
theorem Step.key_mem_used (step : Step types before field after)
    (found : findObject? types field.typeName = some target) : field.key ∈ after.used := by
  cases step with
  | used taken => exact taken
  | lost _ missing => simp [found] at missing
  | paired | alone => simp

theorem Step.used_nodup (step : Step types before field after) (nodup : before.used.Nodup) :
    after.used.Nodup := by
  cases step with
  | used | lost => exact nodup
  | paired free _ chosen =>
    obtain ⟨_, faced, fresh, _⟩ := Field.of_partner? chosen
    have different := (Field.facedBy_iff.mp faced).2.2
    simp [different, fresh, free, nodup]
  | alone free => exact List.nodup_cons.mpr ⟨free, nodup⟩

theorem Step.ends_perm (step : Step types before field after)
    (perm : (before.relations.flatMap Relation.ends).Perm before.used) :
    (after.relations.flatMap Relation.ends).Perm after.used := by
  cases step with
  | used | lost => exact perm
  | paired => exact Relation.ends_ofPair.append perm
  | alone => exact perm.cons _

theorem run_used_nodup : (run types fields).used.Nodup :=
  run_induction (motive := fun _ pairing => pairing.used.Nodup) List.nodup_nil
    fun _ _ _ _ _ nodup step => step.used_nodup nodup

theorem run_ends_perm : ((run types fields).relations.flatMap Relation.ends).Perm (run types fields).used :=
  run_induction (motive := fun _ pairing => (pairing.relations.flatMap Relation.ends).Perm pairing.used)
    (.refl _) fun _ _ _ _ _ perm step => step.ends_perm perm

theorem key_mem_run (member : field ∈ fields) (found : findObject? types field.typeName = some target) :
    field.key ∈ (run types fields).used := by
  suffices visited : ∀ other ∈ fields, (findObject? types other.typeName).isSome = true →
      other.key ∈ (run types fields).used from visited field member (by simp [found])
  refine run_induction (motive := fun done pairing => ∀ other ∈ done,
    (findObject? types other.typeName).isSome = true → other.key ∈ pairing.used) (by simp) ?_
  intro done next before after _ earlier step other member leads
  rcases List.mem_append.mp member with old | new
  · exact step.grows (earlier other old leads)
  · cases List.mem_singleton.mp new
    obtain ⟨target, found⟩ := Option.isSome_iff_exists.mp leads
    exact step.key_mem_used found

end Pairing

/-- A relation field that leads to a type that owns fields. -/
def Field.CanRelate (types : List TypeDef) (field : Field) : Prop :=
  field ∈ relationFields types ∧ (findObject? types field.typeName).isSome = true

/-- The other end leads back to where the first one is. -/
theorem UniqueNames.canRelate_of_partner? {used : List (String × String)} (unique : UniqueNames types)
    (member : field ∈ relationFields types) (found : findObject? types field.typeName = some target)
    (chosen : field.partner? target used = some partner) : partner.CanRelate types := by
  obtain ⟨_, faced, _, _⟩ := Field.of_partner? chosen
  obtain ⟨_, back, _⟩ := Field.facedBy_iff.mp faced
  obtain ⟨object, here, _⟩ := unique.findObject?_owner member
  rw [← back] at here
  exact ⟨(unique.claims_or_inverts found chosen).1, Option.isSome_iff_exists.mpr ⟨object, here⟩⟩

namespace Pairing

theorem canRelate_of_mem_run (unique : UniqueNames types) {key : String × String}
    (member : key ∈ (run types (relationFields types)).used) :
    ∃ field : Field, field.CanRelate types ∧ field.key = key := by
  revert key
  refine run_induction (motive := fun _ pairing => ∀ {key}, key ∈ pairing.used →
    ∃ field : Field, field.CanRelate types ∧ field.key = key) (by simp) ?_
  intro done field before after within earlier step key member
  have listed : field ∈ relationFields types := within.subset (by simp)
  cases step with
  | used | lost => exact earlier member
  | paired _ found chosen =>
    rcases List.mem_cons.mp member with rfl | member
    · exact ⟨_, unique.canRelate_of_partner? listed found chosen, rfl⟩
    · rcases List.mem_cons.mp member with rfl | member
      · exact ⟨field, ⟨listed, by simp [found]⟩, rfl⟩
      · exact earlier member
  | alone _ found =>
    rcases List.mem_cons.mp member with rfl | member
    · exact ⟨field, ⟨listed, by simp [found]⟩, rfl⟩
    · exact earlier member

/-- In the end the fields used are those that can be an end of a relation. -/
theorem mem_run_used_iff (unique : UniqueNames types) {key : String × String} :
    key ∈ (run types (relationFields types)).used ↔
      ∃ field : Field, field.CanRelate types ∧ field.key = key := by
  constructor
  · exact canRelate_of_mem_run unique
  · intro eligible
    obtain ⟨field, ⟨member, leads⟩, rfl⟩ := eligible
    obtain ⟨target, found⟩ := Option.isSome_iff_exists.mp leads
    exact key_mem_run member found

end Pairing

namespace Relation

theorem resolve_ends_perm :
    ((resolve (findType? types) types).flatMap ends).Perm
      (Pairing.run types (relationFields types)).used :=
  ((List.reverse_perm _).flatMap_right ends).trans Pairing.run_ends_perm

theorem mem_resolve_of_run {relation : Relation} (within : done <+: relationFields types)
    (found : relation ∈ (Pairing.run types done).relations) :
    relation ∈ resolve (findType? types) types := by
  obtain ⟨rest, parts⟩ := within
  rw [resolve, List.mem_reverse, ← parts]
  exact Pairing.run_relations_subset rest found

theorem nodup_ends : ((resolve (findType? types) types).flatMap ends).Nodup :=
  resolve_ends_perm.nodup_iff.mpr Pairing.run_used_nodup

theorem nodup_starts : ((resolve (findType? types) types).map start).Nodup := by
  refine List.pairwise_map.mpr ((List.nodup_flatMap.mp nodup_ends).2.imp ?_)
  intro first second apart same
  exact apart List.mem_cons_self (same ▸ List.mem_cons_self)

theorem nodup_resolve : (resolve (findType? types) types).Nodup := .of_map start nodup_starts

/-- A field is an end of one relation at most. -/
theorem eq_of_mem_ends {first second : Relation} (left : first ∈ resolve (findType? types) types)
    (right : second ∈ resolve (findType? types) types) {key : String × String}
    (near : key ∈ first.ends) (far : key ∈ second.ends) : first = second := by
  by_contra different
  have symmetric : Std.Symm (Function.onFun List.Disjoint ends) :=
    ⟨fun _ _ apart _ left right => apart right left⟩
  exact (List.nodup_flatMap.mp nodup_ends).2.forall left right different near far

end Relation

namespace Model

/-- The model has an object type of the first name with a relation field of the second name, and the
field leads to an object type. -/
def CanRelate (model : Model) (typeName fieldName : String) : Prop :=
  ∃ object ∈ model.objects, object.name = typeName ∧
    ∃ field ∈ object.fields, field.name = fieldName ∧ field.isRelation = true ∧
      (model.object? field.typeName).isSome = true

theorem canRelate_iff {model : Model} {typeName fieldName : String} :
    model.CanRelate typeName fieldName ↔
      ∃ field : Field, field.CanRelate model.types ∧ field.key = (typeName, fieldName) := by
  rw [CanRelate, object?_eq]
  constructor
  · intro relates
    obtain ⟨object, kept, rfl, field, member, rfl, relation, leads⟩ := relates
    refine ⟨field, ⟨mem_relationFields_iff.mpr ⟨object, kept, member, relation⟩, leads⟩, ?_⟩
    rw [Field.key, ObjectType.owner_of_mem_fields member]
  · intro relates
    obtain ⟨field, ⟨listed, leads⟩, same⟩ := relates
    obtain ⟨object, kept, member, relation⟩ := mem_relationFields_iff.mp listed
    obtain ⟨rfl, rfl⟩ := Prod.mk.inj same
    exact ⟨object, kept, (ObjectType.owner_of_mem_fields member).symm, field, member, rfl, relation,
      leads⟩

/-- Every field that can be an end of a relation is one, and only once; no other field is. -/
theorem relations_partition (declarations : Declarations) :
    ((ofDeclarations declarations).relations.flatMap Relation.ends).Nodup ∧
      ∀ typeName fieldName,
        (typeName, fieldName) ∈ (ofDeclarations declarations).relations.flatMap Relation.ends ↔
          (ofDeclarations declarations).CanRelate typeName fieldName := by
  rw [relations_eq]
  refine ⟨Relation.nodup_ends, ?_⟩
  intro typeName fieldName
  rw [canRelate_iff]
  exact Relation.resolve_ends_perm.mem_iff.trans (Pairing.mem_run_used_iff Registry.unique_ofDecls)

end Model
end TypeGraph
