import TypeGraph.Proofs.Pairing

/-! The relations that fields spell out, and why the pairing finds them. Where fields and their
inverses match, both are used at the same time, whichever of them is met first, so neither is ever
left for a third one to take. -/
namespace TypeGraph

variable {types : List TypeDef} {fields : List Field} {field inverse other : Field}
  {target : ObjectType} {relation : Relation}

/-- Whether the field is the far end of the relation. -/
def Relation.isTo (relation : Relation) (field : Field) : Bool :=
  relation.toType == field.owner && relation.toField == some field.name

theorem Relation.key_mem_ends_of_isTo (far : relation.isTo field = true) :
    field.key ∈ relation.ends := by
  obtain ⟨owner, name⟩ : relation.toType = field.owner ∧ relation.toField = some field.name := by
    simpa [isTo] using far
  simp [ends, Field.key, owner, name]

/-- The relations that the fields spell out: a forward field alone, or together with each field that
calls itself its inverse. -/
inductive Relates (fields : List Field) : Relation → Prop where
  | alone {field : Field} (member : field ∈ fields) (forward : field.inverseOf = none)
      (lone : ∀ inverse ∈ fields, ¬ inverse.Inverts field) :
      Relates fields ⟨field.owner, field.name, field.typeName, none⟩
  | both {field inverse : Field} (member : field ∈ fields) (answered : inverse ∈ fields)
      (inverts : inverse.Inverts field) :
      Relates fields ⟨field.owner, field.name, field.typeName, some inverse.name⟩

theorem Relates.starts (spelt : Relates fields relation) :
    ∃ field ∈ fields, field.inverseOf = none ∧ relation.start = field.key := by
  cases spelt with
  | alone member forward => exact ⟨_, member, forward, rfl⟩
  | both member _ inverts => exact ⟨_, member, inverts.forward, rfl⟩

/-- What is spelt out depends on which fields there are, not on where they stand. -/
theorem Relates.of_same_members {others : List Field} (same : ∀ field, field ∈ others ↔ field ∈ fields)
    (spelt : Relates fields relation) : Relates others relation := by
  cases spelt with
  | alone member forward lone =>
    exact .alone ((same _).mpr member) forward fun inverse listed => lone inverse ((same _).mp listed)
  | both member answered inverts =>
    exact .both ((same _).mpr member) ((same _).mpr answered) inverts

/-- Every relation field leads to a type with fields, a named inverse is a forward field, and a
forward field is the inverse of one field at most. -/
structure Coherent (types : List TypeDef) : Prop extends Distinct types where
  leads : ∀ field ∈ relationFields types, (findObject? types field.typeName).isSome = true
  answers : ∀ inverse ∈ relationFields types, inverse.inverseOf.isSome = true →
    ∃ field ∈ relationFields types, inverse.Inverts field
  single : ∀ field ∈ relationFields types, ∀ first ∈ relationFields types,
    ∀ second ∈ relationFields types,
      first.Inverts field → second.Inverts field → first = second

/-- A pairing in which inverses are never apart, and all relations are spelt out by fields. -/
structure Pairing.Settled (types : List TypeDef) (pairing : Pairing) : Prop where
  together : ∀ field ∈ relationFields types, ∀ inverse ∈ relationFields types,
    inverse.Inverts field → (field.key ∈ pairing.used ↔ inverse.key ∈ pairing.used)
  spelt : ∀ relation ∈ pairing.relations, Relates (relationFields types) relation

namespace Coherent
variable {before after : Pairing} (coherent : Coherent types)
include coherent

/-- Two fields that are joined are a forward field and its inverse. -/
theorem inverts_of_partner? {partner : Field} {used : List (String × String)}
    (member : field ∈ relationFields types) (found : findObject? types field.typeName = some target)
    (chosen : field.partner? target used = some partner) :
    partner ∈ relationFields types ∧ (field.Inverts partner ∨ partner.Inverts field) := by
  obtain ⟨listed, claims | inverts⟩ := coherent.names.claims_or_inverts found chosen
  · obtain ⟨names, owner, _⟩ := Field.claims_iff.mp claims
    obtain ⟨other, answers, inverts⟩ := coherent.answers field member (by simp [names])
    have sameName := Option.some.inj (inverts.names.symm.trans names)
    have same : other.key = partner.key := by
      rw [Field.key, Field.key, ← inverts.back, sameName, owner]
    cases coherent.field_eq answers listed same
    exact ⟨listed, .inl inverts⟩
  · exact ⟨listed, .inr inverts⟩

/-- Joining a field and its inverse uses both of them, and no other inverse or inverted field. -/
theorem settled_pair (member : field ∈ relationFields types)
    (answered : inverse ∈ relationFields types) (inverts : inverse.Inverts field)
    (settled : before.Settled types) {used : List (String × String)}
    (spent : ∀ key, key ∈ used ↔ key = field.key ∨ key = inverse.key ∨ key ∈ before.used) :
    Pairing.Settled types
      ⟨⟨field.owner, field.name, field.typeName, some inverse.name⟩ :: before.relations, used⟩ := by
  refine ⟨?_, List.forall_mem_cons.mpr ⟨.both member answered inverts, settled.spelt⟩⟩
  intro first firstMember second secondMember pair
  have forwardApart : first.key ≠ inverse.key := by
    intro same
    cases coherent.field_eq firstMember answered same
    exact inverts.not_forward pair.forward
  have inverseApart : second.key ≠ field.key := by
    intro same
    cases coherent.field_eq secondMember member same
    exact pair.not_forward inverts.forward
  have same : first.key = field.key ↔ second.key = inverse.key := by
    constructor
    · intro same
      cases coherent.field_eq firstMember member same
      rw [coherent.single _ member _ secondMember _ answered pair inverts]
    · intro same
      cases coherent.field_eq secondMember answered same
      exact pair.key_eq inverts
  rw [spent, spent, same, settled.together first firstMember second secondMember pair]
  simp [forwardApart, inverseApart]

/-- A free field that finds no other end neither names an inverse nor has one. -/
theorem unpaired_of_alone (member : field ∈ relationFields types) (settled : before.Settled types)
    (free : field.key ∉ before.used) (found : findObject? types field.typeName = some target)
    (refused : field.partner? target before.used = none) :
    field.inverseOf = none ∧ ∀ inverse ∈ relationFields types, ¬ inverse.Inverts field := by
  have forward : field.inverseOf = none := by
    by_contra named
    obtain ⟨other, answers, inverts⟩ :=
      coherent.answers field member (Option.isSome_iff_ne_none.mpr named)
    have otherFree := mt (settled.together other answers field member inverts).mp free
    have faced := (coherent.ends_of_inverts answers member inverts).2.2
    obtain ⟨relation, back, _⟩ := Field.facedBy_iff.mp faced
    have here := (coherent.names.mem_target_iff found).mpr ⟨answers, inverts.back.symm⟩
    have kept := (mem_of_findObject? found).1
    rw [Field.partner?_of_names (coherent.fields target kept) here.1 inverts.names faced otherFree]
      at refused
    cases refused
  refine ⟨forward, fun inverse answered inverts => ?_⟩
  have inverseFree := mt (settled.together field member inverse answered inverts).mpr free
  have here := (coherent.names.mem_target_iff found).mpr ⟨answered, inverts.there⟩
  have faced := (coherent.ends_of_inverts member answered inverts).2.1
  obtain ⟨partner, chosen⟩ := Field.partner?_isSome_of_inverse forward
    (Field.mem_inversesOn_iff.mpr ⟨here.1, faced, inverts.names⟩) inverseFree
  rw [chosen] at refused
  cases refused

theorem settled_step (member : field ∈ relationFields types) (settled : before.Settled types)
    (step : Pairing.Step types before field after) : after.Settled types := by
  cases step with
  | used | lost => exact settled
  | @paired target partner _ found chosen =>
    obtain ⟨listed, inverts | inverts⟩ := coherent.inverts_of_partner? member found chosen
    · rw [(Relation.ofPair_of_inverts inverts).2]
      exact coherent.settled_pair listed member inverts settled (by simp)
    · rw [(Relation.ofPair_of_inverts inverts).1]
      exact coherent.settled_pair member listed inverts settled (by simp [or_left_comm])
  | @alone target free found refused =>
    obtain ⟨forward, lone⟩ := coherent.unpaired_of_alone member settled free found refused
    have same : target.name = field.typeName := (mem_of_findObject? found).2
    refine ⟨fun first firstMember second secondMember pair => ?_, ?_⟩
    · have firstApart : first.key ≠ field.key := by
        intro same
        cases coherent.field_eq firstMember member same
        exact lone second secondMember pair
      have secondApart : second.key ≠ field.key := by
        intro same
        cases coherent.field_eq secondMember member same
        exact pair.not_forward forward
      simp [firstApart, secondApart, settled.together first firstMember second secondMember pair]
    · rw [Relation.oneWay, same]
      exact List.forall_mem_cons.mpr ⟨.alone member forward lone, settled.spelt⟩

theorem settled_run : (Pairing.run types (relationFields types)).Settled types :=
  Pairing.run_induction (motive := fun _ pairing => pairing.Settled types)
    ⟨by simp, by simp⟩ fun _ _ _ _ within settled step =>
      coherent.settled_step (within.subset (by simp)) settled step

/-- A forward field is where a relation starts, never its other end. -/
theorem start_eq_of_mem_ends (spelt : Relates (relationFields types) relation)
    (member : field ∈ relationFields types) (forward : field.inverseOf = none)
    (near : field.key ∈ relation.ends) : relation.start = field.key := by
  cases spelt with
  | alone => exact (List.mem_singleton.mp near).symm
  | @both _ inverse _ answered inverts =>
    rcases List.mem_cons.mp near with same | same
    · exact same.symm
    · have same : field.key = inverse.key := by simpa [Field.key, inverts.there] using same
      cases coherent.field_eq member answered same
      exact absurd forward inverts.not_forward

/-- Relations spelt out that start at one field are one relation. -/
theorem eq_of_start {first second : Relation} (left : Relates (relationFields types) first)
    (right : Relates (relationFields types) second) (same : first.start = second.start) :
    first = second := by
  cases left with
  | alone member _ lone =>
    cases right with
    | alone other => rw [coherent.field_eq member other same]
    | both other answered inverts =>
      cases coherent.field_eq member other same
      exact absurd inverts (lone _ answered)
  | both member answered inverts =>
    cases right with
    | alone other _ lone =>
      cases coherent.field_eq member other same
      exact absurd inverts (lone _ answered)
    | both other otherAnswered otherInverts =>
      cases coherent.field_eq member other same
      rw [coherent.single _ member _ answered _ otherAnswered inverts otherInverts]

theorem relates_of_mem_resolve (member : relation ∈ Relation.resolve (findType? types) types) :
    Relates (relationFields types) relation :=
  coherent.settled_run.spelt relation (List.mem_reverse.mp member)

theorem exists_start (member : field ∈ relationFields types) (forward : field.inverseOf = none) :
    ∃ relation ∈ Relation.resolve (findType? types) types, relation.start = field.key := by
  obtain ⟨target, found⟩ := Option.isSome_iff_exists.mp (coherent.leads field member)
  have used := Pairing.key_mem_run member found
  obtain ⟨relation, listed, near⟩ :=
    List.mem_flatMap.mp (Relation.resolve_ends_perm.mem_iff.mpr used)
  exact ⟨relation, listed,
    coherent.start_eq_of_mem_ends (coherent.relates_of_mem_resolve listed) member forward near⟩

/-- The relations found are those that the fields spell out. -/
theorem mem_resolve_iff :
    relation ∈ Relation.resolve (findType? types) types ↔ Relates (relationFields types) relation := by
  constructor
  · exact coherent.relates_of_mem_resolve
  · intro spelt
    obtain ⟨field, member, forward, starts⟩ := spelt.starts
    obtain ⟨other, listed, same⟩ := coherent.exists_start member forward
    have otherSpelt := coherent.relates_of_mem_resolve listed
    rw [coherent.eq_of_start spelt otherSpelt (starts.trans same.symm)]
    exact listed

/-- A field that names an inverse is the far end of one relation, which starts at that inverse. -/
theorem filter_isTo (answered : inverse ∈ relationFields types) {name : String}
    (names : inverse.inverseOf = some name) :
    (Relation.resolve (findType? types) types).filter (·.isTo inverse) =
      [⟨inverse.typeName, name, inverse.owner, some inverse.name⟩] := by
  obtain ⟨field, member, inverts⟩ := coherent.answers inverse answered (by simp [names])
  cases Option.some.inj (inverts.names.symm.trans names)
  have listed := coherent.mem_resolve_iff.mpr (.both member answered inverts)
  rw [← inverts.back, ← inverts.there] at listed
  refine List.perm_singleton.mp ((List.perm_ext_iff_of_nodup (Relation.nodup_resolve.filter _)
    (List.nodup_singleton _)).mpr fun relation => ?_)
  rw [List.mem_filter, List.mem_singleton]
  constructor
  · intro found
    obtain ⟨other, ends⟩ := found
    exact Relation.eq_of_mem_ends other listed (Relation.key_mem_ends_of_isTo ends)
      (by simp [Relation.ends, Field.key])
  · rintro rfl
    exact ⟨listed, by simp [Relation.isTo]⟩

/-- There are as many relations as forward fields. -/
theorem length_resolve :
    (Relation.resolve (findType? types) types).length =
      (relationFields types).countP (·.inverseOf.isNone) := by
  have keys := coherent.nodup_keys
  have perm : ((Relation.resolve (findType? types) types).map Relation.start).Perm
      (((relationFields types).filter (·.inverseOf.isNone)).map (·.key)) := by
    refine (List.perm_ext_iff_of_nodup Relation.nodup_starts
      (keys.sublist (List.filter_sublist.map _))).mpr fun key => ?_
    simp only [List.mem_map, List.mem_filter, Option.isNone_iff_eq_none]
    constructor
    · intro found
      obtain ⟨relation, listed, rfl⟩ := found
      obtain ⟨field, member, forward, starts⟩ := (coherent.relates_of_mem_resolve listed).starts
      exact ⟨field, ⟨member, forward⟩, starts.symm⟩
    · intro declared
      obtain ⟨field, ⟨member, forward⟩, rfl⟩ := declared
      exact coherent.exists_start member forward
  simpa [List.countP_eq_length_filter] using perm.length_eq

end Coherent
end TypeGraph
