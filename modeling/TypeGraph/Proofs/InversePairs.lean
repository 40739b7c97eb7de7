import TypeGraph.Proofs.Pairing
import Mathlib.Data.List.TakeWhile

/-! When a field and its only inverse are joined. Fields are taken up in order, and one that names
the inverse as its own inverse takes it if it is met first; unless it was taken itself before. -/
namespace TypeGraph

variable {types : List TypeDef} {fields done : List Field} {field next other inverse : Field}
  {before after : Pairing}

namespace Field

/-- Whether one of the fields taken up so far, the latest first, claimed the field in its turn. A
field that was claimed by then claims no other. -/
def claimed : List Field → Field → Bool
  | [], _ => false
  | next :: earlier, field => (next.claims field && !claimed earlier next) || claimed earlier field

theorem claimed_cons : claimed (next :: done) field = true ↔
    (next.claims field = true ∧ claimed done next = false) ∨ claimed done field = true := by
  simp [claimed]

theorem claimed_eq_false (unclaimed : ∀ other ∈ done, ¬ other.claims field = true) :
    claimed done field = false := by
  induction done with
  | nil => rfl
  | cons next earlier ih =>
    have rest := ih fun other member => unclaimed other (List.mem_cons_of_mem next member)
    simp [claimed, rest, unclaimed next List.mem_cons_self]

end Field

namespace Distinct
variable (distinct : Distinct types)
include distinct

/-- A field that claims another one leads back to a type that is kept. -/
theorem canRelate_of_claims (listed : next ∈ relationFields types) (member : field ∈ relationFields types)
    (claims : next.claims field = true) : next.CanRelate types := by
  obtain ⟨object, found, _⟩ := distinct.names.findObject?_owner member
  rw [(Field.claims_iff.mp claims).2.1] at found
  exact ⟨listed, Option.isSome_iff_exists.mpr ⟨object, found⟩⟩

/-- A field that claims one with an inverse is not the inverse of a forward field. -/
theorem not_inverts_of_claims (member : field ∈ relationFields types) (named : field.inverseOf ≠ none)
    (claims : next.claims field = true) (listed : other ∈ relationFields types) :
    ¬ next.Inverts other := by
  intro inverts
  obtain ⟨names, owner, _⟩ := Field.claims_iff.mp claims
  have sameName := Option.some.inj (inverts.names.symm.trans names)
  have same : other.key = field.key := by
    rw [Field.key, Field.key, sameName, owner, inverts.back]
  cases distinct.field_eq listed member same
  exact named inverts.forward

end Distinct

/-- Of the fields that name an inverse which is none itself forward so far, the used ones are those
taken up and those claimed. -/
def Pairing.Accounted (types : List TypeDef) (done : List Field) (pairing : Pairing) : Prop :=
  ∀ field : Field, field.CanRelate types → field.inverseOf ≠ none →
    (∀ other ∈ done, ¬ field.Inverts other) →
      (field.key ∈ pairing.used ↔ field ∈ done ∨ Field.claimed done.reverse field = true)

namespace Distinct
variable (distinct : Distinct types)
include distinct

/-- A field that claims one with an inverse was used by its turn exactly if it was claimed. -/
theorem used_claimant_iff (accounted : before.Accounted types done)
    (within : ∀ other ∈ done, other ∈ relationFields types) (fresh : next ∉ done)
    (listed : next ∈ relationFields types) (member : field ∈ relationFields types)
    (named : field.inverseOf ≠ none) (claims : next.claims field = true) :
    next.key ∈ before.used ↔ Field.claimed done.reverse next = true := by
  have names : next.inverseOf ≠ none := by
    rw [(Field.claims_iff.mp claims).1]
    exact Option.some_ne_none _
  rw [accounted next (distinct.canRelate_of_claims listed member claims) names
    fun other earlier => distinct.not_inverts_of_claims member named claims (within other earlier)]
  simp [fresh]

/-- Apart from itself and its inverse, a field that is free uses the one it claims and no other. -/
theorem used_step_iff (listed : next ∈ relationFields types) (member : field ∈ relationFields types)
    (different : field.key ≠ next.key) (lone : ¬ field.Inverts next)
    (step : Pairing.Step types before next after) :
    field.key ∈ after.used ↔
      (next.claims field = true ∧ next.key ∉ before.used) ∨ field.key ∈ before.used := by
  cases step with
  | used taken => simp [taken]
  | lost _ missing =>
    have idle : ¬ next.claims field = true := by
      intro claims
      have leads := (distinct.canRelate_of_claims listed member claims).2
      simp [missing] at leads
    simp [idle]
  | @paired target partner free found chosen =>
    obtain ⟨partnerListed, joined⟩ := distinct.names.claims_or_inverts found chosen
    have chosenIff : field.key = partner.key ↔ next.claims field = true := by
      constructor
      · intro same
        cases distinct.field_eq member partnerListed same
        exact joined.resolve_right lone
      · intro claims
        obtain ⟨names, owner, _⟩ := Field.claims_iff.mp claims
        rcases joined with other | inverts
        · obtain ⟨otherNames, otherOwner, _⟩ := Field.claims_iff.mp other
          have sameName := Option.some.inj (names.symm.trans otherNames)
          rw [Field.key, Field.key, owner, otherOwner, sameName]
        · rw [inverts.forward] at names
          cases names
    simp [chosenIff, different, free]
  | @alone target free found refused =>
    have taken : next.claims field = true → field.key ∈ before.used := by
      intro claims
      obtain ⟨names, owner, faced⟩ := Field.claims_iff.mp claims
      have here := (distinct.names.mem_target_iff found).mpr ⟨member, owner⟩
      have kept := (mem_of_findObject? found).1
      by_contra fieldFree
      rw [Field.partner?_of_names (distinct.fields target kept) here.1 names faced fieldFree]
        at refused
      cases refused
    simp only [List.mem_cons, different, false_or, free, not_false_eq_true, and_true]
    exact (or_iff_right_of_imp taken).symm

theorem accounted_step (accounted : before.Accounted types done)
    (within : ∀ other ∈ done, other ∈ relationFields types) (fresh : next ∉ done)
    (listed : next ∈ relationFields types) (step : Pairing.Step types before next after) :
    after.Accounted types (done ++ [next]) := by
  intro field related named lone
  have old := accounted field related named fun other earlier => lone other (by simp [earlier])
  by_cases same : field = next
  · subst same
    obtain ⟨target, found⟩ := Option.isSome_iff_exists.mp related.2
    simp [step.key_mem_used found]
  have different : field.key ≠ next.key := mt (distinct.field_eq related.1 listed) same
  have claimant : (next.claims field = true ∧ next.key ∉ before.used) ↔
      next.claims field = true ∧ Field.claimed done.reverse next = false := by
    refine and_congr_right fun claims => ?_
    rw [distinct.used_claimant_iff accounted within fresh listed related.1 named claims,
      Bool.not_eq_true]
  rw [distinct.used_step_iff listed related.1 different (lone next (by simp)) step, claimant, old,
    List.reverse_append, List.reverse_singleton, List.singleton_append, Field.claimed_cons]
  simp [same, or_left_comm]

/-- At any time, of the fields with an inverse those are used that were taken up or claimed. -/
theorem accounted_run (within : done <+: relationFields types) :
    (Pairing.run types done).Accounted types done := by
  have nodup : done.Nodup := (List.Nodup.of_map _ distinct.nodup_keys).sublist within.sublist
  refine Pairing.run_induction (motive := fun done pairing => pairing.Accounted types done)
    (by simp [Pairing.Accounted, Field.claimed]) ?_
  intro earlier next before after initial accounted step
  have listed := (initial.trans within).subset
  have fresh : next ∉ earlier := by
    have apart := (List.nodup_append.mp (nodup.sublist initial.sublist)).2.2
    exact fun member => apart next member next (by simp) rfl
  exact distinct.accounted_step accounted (fun other member => listed (by simp [member])) fresh
    (listed (by simp)) step

end Distinct

namespace Field

/-- To claim a forward field is to be its inverse. -/
theorem inverts_of_claims (forward : other.inverseOf = none) (claims : field.claims other = true) :
    field.Inverts other := by
  obtain ⟨names, owner, faced⟩ := claims_iff.mp claims
  obtain ⟨_, back, _⟩ := facedBy_iff.mp faced
  exact ⟨owner.symm, back.symm, forward, names⟩

/-- A forward field claims nothing. -/
theorem not_claims (forward : field.inverseOf = none) : ¬ field.claims other = true := by
  intro claims
  obtain ⟨names, _, _⟩ := claims_iff.mp claims
  rw [forward] at names
  cases names

/-- The fields that come before both of the two. -/
def beforeBoth (fields : List Field) (first second : Field) : List Field :=
  fields.takeWhile fun other => other != first && other != second

theorem not_mem_beforeBoth (fields : List Field) (field inverse : Field) :
    field ∉ beforeBoth fields field inverse ∧ inverse ∉ beforeBoth fields field inverse := by
  constructor
  · intro member
    simpa using List.mem_takeWhile_imp member
  · intro member
    simpa using List.mem_takeWhile_imp member

/-- One of the two comes next. -/
theorem beforeBoth_append (member : field ∈ fields) (inverse : Field) :
    ∃ next later, fields = beforeBoth fields field inverse ++ next :: later ∧
      (next = field ∨ next = inverse) := by
  have parts := List.takeWhile_append_dropWhile (p := fun other => other != field && other != inverse)
    (l := fields)
  cases rest : fields.dropWhile fun other => other != field && other != inverse with
  | nil =>
    have passed := List.dropWhile_eq_nil_iff.mp rest field member
    simp at passed
  | cons next later =>
    have stopped := List.head?_dropWhile_not (fun other => other != field && other != inverse) fields
    rw [rest] at parts stopped
    refine ⟨next, later, parts.symm, ?_⟩
    simp only [List.head?_cons, Bool.and_eq_false_iff, bne_eq_false_iff_eq] at stopped
    exact stopped

end Field

namespace Distinct

section Pair
variable (distinct : Distinct types) (member : field ∈ relationFields types)
  (answered : inverse ∈ relationFields types) (inverts : inverse.Inverts field)
  (only : ∀ other ∈ relationFields types, other.Inverts field → other = inverse)
include distinct member inverts

include only in
/-- The forward field is used in its own turn or in that of its inverse. -/
theorem forward_free (within : done <+: relationFields types) (ahead : field ∉ done)
    (inverseAhead : inverse ∉ done) : field.key ∉ (Pairing.run types done).used := by
  revert ahead inverseAhead
  refine Pairing.run_induction (motive := fun done pairing =>
    field ∉ done → inverse ∉ done → field.key ∉ pairing.used) (by simp) ?_
  intro earlier next before after initial free step ahead inverseAhead
  simp only [List.mem_append, List.mem_singleton, not_or] at ahead inverseAhead
  have listed : next ∈ relationFields types := (initial.trans within).subset (by simp)
  have different : field.key ≠ next.key := mt (distinct.field_eq member listed) ahead.2
  have lone : ¬ field.Inverts next := fun other => other.not_forward inverts.forward
  rw [distinct.used_step_iff listed member different lone step]
  rintro (⟨claims, _⟩ | taken)
  · exact inverseAhead.2 (only next listed (Field.inverts_of_claims inverts.forward claims)).symm
  · exact free ahead.1 inverseAhead.1 taken

include answered

/-- Whichever of a free field and its free inverse is taken up, it is joined: the inverse with the
field, the field with an inverse. -/
theorem joined_visit (free : field.key ∉ before.used) (inverseFree : inverse.key ∉ before.used)
    (either : next = field ∨ next = inverse) :
    ∃ partner, Relation.ofPair next partner ∈ (before.visit (findType? types) next).relations ∧
      (next = field ∧ partner ∈ relationFields types ∧ partner.Inverts field ∨
        next = inverse ∧ partner = field) := by
  obtain ⟨_, faced, facedBack⟩ := distinct.ends_of_inverts member answered inverts
  obtain ⟨source, sourceFound, owned⟩ := distinct.names.findObject?_owner member
  obtain ⟨target, found, here⟩ := distinct.names.findObject?_owner answered
  rw [← inverts.back] at sourceFound
  rw [inverts.there] at found
  rcases either with rfl | rfl
  · have listed := Field.mem_inversesOn_iff.mpr ⟨here, faced, inverts.names⟩
    obtain ⟨partner, chosen⟩ := Field.partner?_isSome_of_inverse inverts.forward listed inverseFree
    obtain ⟨partnerListed, joined⟩ := distinct.names.claims_or_inverts found chosen
    refine ⟨partner, ?_, .inl ⟨rfl, partnerListed, joined.resolve_left ?_⟩⟩
    · rw [Pairing.visit_of_partner? free found chosen]
      exact List.mem_cons_self
    · exact Field.not_claims inverts.forward
  · have kept := (mem_of_findObject? sourceFound).1
    have chosen := Field.partner?_of_names (distinct.fields source kept) owned inverts.names
      facedBack free
    refine ⟨field, ?_, .inr ⟨rfl, rfl⟩⟩
    rw [Pairing.visit_of_partner? inverseFree sourceFound chosen]
    exact List.mem_cons_self

include only in
/-- Whichever of the two is taken up first, it finds the other one if the inverse is still free. -/
theorem pair_mem_visit (free : field.key ∉ before.used) (inverseFree : inverse.key ∉ before.used)
    (either : next = field ∨ next = inverse) :
    ⟨field.owner, field.name, field.typeName, some inverse.name⟩ ∈
      (before.visit (findType? types) next).relations := by
  obtain ⟨partner, found, ⟨rfl, listed, other⟩ | ⟨rfl, rfl⟩⟩ :=
    distinct.joined_visit member answered inverts free inverseFree either
  · cases only partner listed other
    exact (Relation.ofPair_of_inverts inverts).1 ▸ found
  · exact (Relation.ofPair_of_inverts inverts).2 ▸ found

/-- As long as neither was taken up, the inverse is used exactly if it was claimed. -/
theorem inverse_used_iff (within : done <+: relationFields types) (ahead : field ∉ done)
    (inverseAhead : inverse ∉ done) :
    inverse.key ∈ (Pairing.run types done).used ↔ Field.claimed done.reverse inverse = true := by
  obtain ⟨source, found, _⟩ := distinct.names.findObject?_owner member
  rw [← inverts.back] at found
  have related : inverse.CanRelate types := ⟨answered, Option.isSome_iff_exists.mpr ⟨source, found⟩⟩
  rw [distinct.accounted_run within inverse related inverts.not_forward]
  · simp [inverseAhead]
  · intro other earlier otherInverts
    have same := distinct.field_eq (within.subset earlier) member (otherInverts.key_eq inverts)
    exact ahead (same ▸ earlier)

include only in
/-- The two are joined exactly if no other field has claimed the inverse before both. -/
theorem pair_mem_resolve_iff :
    ⟨field.owner, field.name, field.typeName, some inverse.name⟩ ∈
      Relation.resolve (findType? types) types ↔
      Field.claimed (Field.beforeBoth (relationFields types) field inverse).reverse inverse =
        false := by
  obtain ⟨next, later, parts, either⟩ := Field.beforeBoth_append member inverse
  obtain ⟨ahead, inverseAhead⟩ := Field.not_mem_beforeBoth (relationFields types) field inverse
  generalize Field.beforeBoth (relationFields types) field inverse = earlier at *
  have within : earlier <+: relationFields types := ⟨_, parts.symm⟩
  have free := distinct.forward_free member inverts only within ahead inverseAhead
  rw [← Bool.not_eq_true, ← distinct.inverse_used_iff member answered inverts within ahead inverseAhead]
  constructor
  · intro joined taken
    obtain ⟨relation, found, near⟩ :=
      List.mem_flatMap.mp (Pairing.run_ends_perm.mem_iff.mpr taken)
    have far : inverse.key ∈ (⟨field.owner, field.name, field.typeName, some inverse.name⟩ :
        Relation).ends := by
      simp [Relation.ends, Field.key, inverts.there]
    cases Relation.eq_of_mem_ends (Relation.mem_resolve_of_run within found) joined near far
    exact free (Pairing.run_ends_perm.mem_iff.mp (List.mem_flatMap.mpr ⟨_, found, List.mem_cons_self⟩))
  · intro inverseFree
    have found := distinct.pair_mem_visit member answered inverts only free inverseFree either
    rw [← Pairing.run_append_singleton] at found
    exact Relation.mem_resolve_of_run ⟨later, by simp [parts]⟩ found

end Pair
end Distinct

namespace Model

/-- A relation field without an inverse, and one that names it as its inverse, alone in doing so. -/
structure Matches (source target : ObjectType) (field inverse : Field) : Prop where
  owned : field ∈ source.fields
  relation : field.isRelation = true
  leads : field.typeName = target.name
  forward : field.inverseOf = none
  inverseOwned : inverse ∈ target.fields
  inverseRelation : inverse.isRelation = true
  back : inverse.typeName = source.name
  names : inverse.inverseOf = some field.name
  only : ∀ other ∈ target.fields, other.isRelation = true → other.typeName = source.name →
    other.inverseOf = some field.name → other = inverse

theorem Matches.inverts {source target : ObjectType} (pair : Matches source target field inverse) :
    inverse.Inverts field := by
  refine ⟨?_, ?_, pair.forward, pair.names⟩
  · rw [pair.back, ObjectType.owner_of_mem_fields pair.owned]
  · rw [pair.leads, ObjectType.owner_of_mem_fields pair.inverseOwned]

namespace Matches
variable {source target : ObjectType} (unique : UniqueNames types)
  (pair : Matches source target field inverse)
include unique pair

theorem only_inverts (kept : target ∈ objectsOf types) (listed : other ∈ relationFields types)
    (inverts : other.Inverts field) : other = inverse := by
  have owner := inverts.there.trans pair.leads
  obtain ⟨here, relation⟩ := unique.mem_fields_of_owner kept listed owner
  have back := inverts.back.trans (ObjectType.owner_of_mem_fields pair.owned)
  exact pair.only other here relation back inverts.names

/-- Only fields of the forward field's type can claim the inverse. -/
theorem claimant (kept : source ∈ objectsOf types) (listed : other ∈ relationFields types)
    (claims : other.claims inverse = true) :
    other ∈ source.fields ∧ other.isRelation = true ∧ other.typeName = target.name ∧
      other.inverseOf = some inverse.name := by
  obtain ⟨names, owner, faced⟩ := Field.claims_iff.mp claims
  obtain ⟨_, back, _⟩ := Field.facedBy_iff.mp faced
  obtain ⟨here, relation⟩ := unique.mem_fields_of_owner kept listed (back.symm.trans pair.back)
  rw [ObjectType.owner_of_mem_fields pair.inverseOwned] at owner
  exact ⟨here, relation, owner.symm, names⟩

end Matches

/-- Every relation field and its only inverse are joined, whatever else is declared. -/
def JoinsInverses (model : Model) : Prop :=
  ∀ source ∈ model.objects, ∀ target ∈ model.objects, source.isRoot = true → target.isRoot = true →
    ∀ field inverse, Matches source target field inverse →
      ⟨source.name, field.name, target.name, some inverse.name⟩ ∈ model.relations

namespace Misnamed

/-- A field that names the inverse of another one as its own, ahead of that field. -/
def recent : FieldDecl where
  name := "recent"
  typeName := "Order"
  isRelation := true
  inverseOf := some "buyer"

def placed : FieldDecl where
  name := "placed"
  typeName := "Order"
  isList := true
  isRelation := true

def buyer : FieldDecl where
  name := "buyer"
  typeName := "Customer"
  isRelation := true
  inverseOf := some "placed"

def customer : ObjectType := ⟨.rootEntity, { name := "Customer", fields := [recent, placed] }⟩

def order : ObjectType := ⟨.rootEntity, { name := "Order", fields := [buyer] }⟩

def declarations : Declarations where
  types := [.object customer.kind customer.decl, .object order.kind order.decl]

/-- Customers place orders, and only the buyer of an order is the inverse of that. -/
theorem buyer_matches :
    Matches customer order (.ofDecl "Customer" placed) (.ofDecl "Order" buyer) where
  owned := by decide
  relation := rfl
  leads := rfl
  forward := rfl
  inverseOwned := by decide
  inverseRelation := rfl
  back := rfl
  names := rfl
  only := by decide

/-- The buyer is taken by `recent`, and the orders that a customer placed stay alone. -/
theorem not_joinsInverses :
    (∀ object ∈ (ofDeclarations declarations).objects, object.UniqueFields) ∧
      ¬ (ofDeclarations declarations).JoinsInverses := by
  refine ⟨by unfold ObjectType.UniqueFields; decide, fun joins => ?_⟩
  have joined := joins customer (by decide) order (by decide) rfl rfl _ _ buyer_matches
  revert joined
  decide

end Misnamed

/-- A field and its only inverse are joined exactly if no field that was free in its turn, before
both of theirs, named the inverse as its own; so always if no field does that. -/
theorem inverse_pair_iff {declarations : Declarations}
    (distinct : ∀ object ∈ (ofDeclarations declarations).objects, object.UniqueFields)
    {source target : ObjectType} (kept : source ∈ (ofDeclarations declarations).objects)
    (targetKept : target ∈ (ofDeclarations declarations).objects)
    (pair : Matches source target field inverse) :
    (⟨source.name, field.name, target.name, some inverse.name⟩ ∈
        (ofDeclarations declarations).relations ↔
      Field.claimed (Field.beforeBoth (relationFields (ofDeclarations declarations).types)
        field inverse).reverse inverse = false) ∧
    ((∀ other ∈ source.fields, other.isRelation = true → other.typeName = target.name →
        other.inverseOf ≠ some inverse.name) →
      ⟨source.name, field.name, target.name, some inverse.name⟩ ∈
        (ofDeclarations declarations).relations) := by
  have apart : Distinct (ofDeclarations declarations).types := ⟨Registry.unique_ofDecls, distinct⟩
  have member := mem_relationFields_iff.mpr ⟨source, kept, pair.owned, pair.relation⟩
  have answered :=
    mem_relationFields_iff.mpr ⟨target, targetKept, pair.inverseOwned, pair.inverseRelation⟩
  have joined := apart.pair_mem_resolve_iff member answered pair.inverts fun other listed =>
    pair.only_inverts apart.names targetKept listed
  rw [ObjectType.owner_of_mem_fields pair.owned, pair.leads, ← relations_eq] at joined
  refine ⟨joined, fun unnamed => joined.mpr (Field.claimed_eq_false ?_)⟩
  intro other earlier claims
  have listed := (List.takeWhile_prefix _).subset (List.mem_reverse.mp earlier)
  obtain ⟨here, relation, leads, names⟩ := pair.claimant apart.names kept listed claims
  exact unnamed other here relation leads names

/-- With orders declared first the buyer is met before `recent`, and gets its pair. -/
theorem Misnamed.buyer_joined : (⟨"Customer", "placed", "Order", some "buyer"⟩ : Relation) ∈
    (ofDeclarations { types := Misnamed.declarations.types.reverse }).relations :=
  (inverse_pair_iff (by unfold ObjectType.UniqueFields; decide) (by decide) (by decide)
    Misnamed.buyer_matches).1.mpr (by decide)

end Model
end TypeGraph
