import TypeGraph.Proofs.InversePairs

/-! No possible pair is missed. A field is used ahead of its turn only as an end of a pair, and of a
forward field and its inverse the one met first finds a partner, unless one of them was used by
then. -/
namespace TypeGraph

variable {types : List TypeDef} {fields done : List Field} {field partner inverse : Field}
  {before after : Pairing} {relations others : List Relation} {key : String × String}

namespace Relation

/-- The field is an end of a relation with two ends. -/
def Pairs (relations : List Relation) (key : String × String) : Prop :=
  ∃ relation ∈ relations, relation.isBidirectional = true ∧ key ∈ relation.ends

theorem Pairs.mono (pairs : Pairs relations key) (within : relations ⊆ others) : Pairs others key := by
  obtain ⟨relation, member, twoEnds, near⟩ := pairs
  exact ⟨relation, within member, twoEnds, near⟩

theorem isBidirectional_ofPair : (ofPair field partner).isBidirectional = true := by
  unfold ofPair
  split <;> rfl

theorem pairs_ofPair (member : ofPair field partner ∈ relations) :
    Pairs relations field.key ∧ Pairs relations partner.key := by
  have near (key : String × String) : key ∈ (ofPair field partner).ends ↔
      key ∈ [partner.key, field.key] := ends_ofPair.mem_iff
  exact ⟨⟨_, member, isBidirectional_ofPair, (near _).mpr (by simp)⟩,
    ⟨_, member, isBidirectional_ofPair, (near _).mpr (by simp)⟩⟩

end Relation

namespace Pairing

/-- Every used field was taken up in its turn, or is an end of a pair. -/
def Explained (done : List Field) (pairing : Pairing) : Prop :=
  ∀ key ∈ pairing.used, key ∈ done.map (·.key) ∨ Relation.Pairs pairing.relations key

theorem Explained.step (explained : before.Explained done) (step : Step types before field after) :
    after.Explained (done ++ [field]) := by
  have old : ∀ key ∈ before.used,
      key ∈ (done ++ [field]).map (·.key) ∨ Relation.Pairs after.relations key := by
    intro key used
    refine (explained key used).imp (fun earlier => ?_) (·.mono step.keeps)
    exact List.map_append ▸ List.mem_append_left _ earlier
  have turn : field.key ∈ (done ++ [field]).map (·.key) := by simp
  cases step with
  | used | lost => exact old
  | paired =>
    refine List.forall_mem_cons.mpr ⟨.inr ?_, List.forall_mem_cons.mpr ⟨.inl turn, old⟩⟩
    exact (Relation.pairs_ofPair List.mem_cons_self).2
  | alone => exact List.forall_mem_cons.mpr ⟨.inl turn, old⟩

theorem explained_run : (run types fields).Explained fields :=
  run_induction (motive := fun done pairing => pairing.Explained done) (by simp [Explained])
    fun _ _ _ _ _ explained step => explained.step step

end Pairing

namespace Distinct
variable (distinct : Distinct types) (member : field ∈ relationFields types)
include distinct member

/-- A field that is used while it still stands ahead is an end of a pair. -/
theorem pairs_of_used (within : done <+: relationFields types) (ahead : field ∉ done)
    (used : field.key ∈ (Pairing.run types done).used) :
    Relation.Pairs (Relation.resolve (findType? types) types) field.key := by
  rcases Pairing.explained_run field.key used with turn | pairs
  · obtain ⟨other, earlier, same⟩ := List.mem_map.mp turn
    cases distinct.field_eq (within.subset earlier) member same
    exact absurd earlier ahead
  · exact pairs.mono fun _ found => Relation.mem_resolve_of_run within found

variable (answered : inverse ∈ relationFields types) (inverts : inverse.Inverts field)
include answered inverts

/-- Of a forward field and its inverse one at least is an end of a pair: at the turn of the first of
them either one has been used, or both are free and that one finds the other. -/
theorem pairs_or_pairs :
    Relation.Pairs (Relation.resolve (findType? types) types) field.key ∨
      Relation.Pairs (Relation.resolve (findType? types) types) inverse.key := by
  obtain ⟨next, later, parts, either⟩ := Field.beforeBoth_append member inverse
  obtain ⟨ahead, inverseAhead⟩ := Field.not_mem_beforeBoth (relationFields types) field inverse
  generalize Field.beforeBoth (relationFields types) field inverse = earlier at *
  have within : earlier <+: relationFields types := ⟨_, parts.symm⟩
  by_cases used : field.key ∈ (Pairing.run types earlier).used
  · exact .inl (distinct.pairs_of_used member within ahead used)
  by_cases inverseUsed : inverse.key ∈ (Pairing.run types earlier).used
  · exact .inr (distinct.pairs_of_used answered within inverseAhead inverseUsed)
  obtain ⟨partner, found, _⟩ :=
    distinct.joined_visit member answered inverts used inverseUsed either
  rw [← Pairing.run_append_singleton] at found
  have through : earlier ++ [next] <+: relationFields types := ⟨later, by simp [parts]⟩
  have pairs := (Relation.pairs_ofPair (Relation.mem_resolve_of_run through found)).1
  rcases either with rfl | rfl
  · exact .inl pairs
  · exact .inr pairs

end Distinct

namespace Model

/-- Where names tell fields apart, a relation field without an inverse and a field that names it as
its inverse are never both left alone: one of them at least is an end of a pair. -/
theorem pairing_maximal {declarations : Declarations}
    (distinct : ∀ object ∈ (ofDeclarations declarations).objects, object.UniqueFields)
    {source target : ObjectType} (kept : source ∈ (ofDeclarations declarations).objects)
    (targetKept : target ∈ (ofDeclarations declarations).objects)
    (owned : field ∈ source.fields) (relation : field.isRelation = true)
    (leads : field.typeName = target.name) (forward : field.inverseOf = none)
    (answered : inverse ∈ target.fields) (inverseRelation : inverse.isRelation = true)
    (back : inverse.typeName = source.name) (names : inverse.inverseOf = some field.name) :
    ∃ relation ∈ (ofDeclarations declarations).relations, relation.isBidirectional = true ∧
      ((source.name, field.name) ∈ relation.ends ∨ (target.name, inverse.name) ∈ relation.ends) := by
  have apart : Distinct (ofDeclarations declarations).types := ⟨Registry.unique_ofDecls, distinct⟩
  have owner := ObjectType.owner_of_mem_fields owned
  have inverseOwner := ObjectType.owner_of_mem_fields answered
  have inverts : inverse.Inverts field :=
    ⟨back.trans owner.symm, inverseOwner.trans leads.symm, forward, names⟩
  rw [← owner, ← inverseOwner, relations_eq]
  rcases apart.pairs_or_pairs (mem_relationFields_iff.mpr ⟨source, kept, owned, relation⟩)
    (mem_relationFields_iff.mpr ⟨target, targetKept, answered, inverseRelation⟩) inverts with
    ⟨found, listed, twoEnds, near⟩ | ⟨found, listed, twoEnds, near⟩
  · exact ⟨found, listed, twoEnds, .inl near⟩
  · exact ⟨found, listed, twoEnds, .inr near⟩

/-- The orders that a customer placed lose the buyer to another field, and so the buyer is an end of
a pair. -/
theorem Misnamed.buyer_paired : ∃ relation ∈ (ofDeclarations declarations).relations,
    relation.isBidirectional = true ∧
      (("Customer", "placed") ∈ relation.ends ∨ ("Order", "buyer") ∈ relation.ends) :=
  have kept : customer ∈ (ofDeclarations declarations).objects := by decide
  have targetKept : order ∈ (ofDeclarations declarations).objects := by decide
  have owned : .ofDecl "Customer" placed ∈ customer.fields := by decide
  have answered : .ofDecl "Order" buyer ∈ order.fields := by decide
  pairing_maximal (by unfold ObjectType.UniqueFields; decide) kept targetKept owned rfl rfl rfl
    answered rfl rfl rfl

end Model
end TypeGraph
