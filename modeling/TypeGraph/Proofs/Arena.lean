import TypeGraph.Validation
import TypeGraph.Proofs.Dictionary

/-! The index of an arena. It is in step with the types, so it leads to a type exactly where a search
along the types finds one, and to the same. All that a model looks up by name is thereby what a search
would find. -/
namespace TypeGraph

namespace Dictionary.Indexes

variable {index other : Dictionary Nat} {names : List String}

/-- Only different names can be told apart by an index. -/
theorem nodup (indexes : index.Indexes names) : names.Nodup := by
  rw [List.nodup_iff_getElem?_ne_getElem?]
  intro first second less bounded same
  have here := List.getElem?_eq_getElem bounded
  have left := (indexes _ first).mpr (same.trans here)
  have right := (indexes _ second).mpr here
  rw [left, Option.some_inj] at right
  exact Nat.ne_of_lt less right

/-- The names leave nothing open about their index. -/
theorem unique (indexes : index.Indexes names) (others : other.Indexes names) : index = other := by
  refine ext_get? fun name => Option.ext fun position => ?_
  rw [indexes, others]

end Dictionary.Indexes

namespace Arena

variable {arena other : Arena} {name : String} {type : TypeDef} {position : Nat}

/-- The index has a position for a name exactly if the type there bears the name. -/
theorem get?_index_eq_some_iff : arena.index.get? name = some position ↔
    ∃ type, arena.types[position]? = some type ∧ type.name = name := by
  rw [arena.inStep, List.getElem?_map, Option.map_eq_some_iff]

theorem unique (arena : Arena) : UniqueNames arena.types := arena.inStep.nodup

theorem contains_index_iff : arena.index.contains name = true ↔ name ∈ arena.types.map (·.name) := by
  rw [← not_iff_not, Bool.not_eq_true, arena.inStep.contains_eq_false_iff]

/-- Where the index leads to, the type stands. -/
theorem type?_eq_get? : arena.type? name = (arena.index.get? name).bind (arena.types[·]?) := by
  unfold type?
  split
  · next position found => exact Option.bind_eq_some_iff.mpr ⟨position, found, by simp⟩ |>.symm
  · next missing => simp [missing]

theorem type?_eq_some_iff :
    arena.type? name = some type ↔ type ∈ arena.types ∧ type.name = name := by
  rw [type?_eq_get?, Option.bind_eq_some_iff]
  constructor
  · rintro ⟨position, found, here⟩
    obtain ⟨other, there, named⟩ := get?_index_eq_some_iff.mp found
    obtain rfl : other = type := Option.some.inj (there.symm.trans here)
    exact ⟨List.mem_of_getElem? here, named⟩
  · rintro ⟨member, named⟩
    obtain ⟨position, here⟩ := List.mem_iff_getElem?.mp member
    exact ⟨position, get?_index_eq_some_iff.mpr ⟨type, here, named⟩, here⟩

/-- The index finds what a search along the types finds. -/
theorem type?_eq (arena : Arena) : arena.type? = findType? arena.types := by
  funext name
  refine Option.ext fun type => ?_
  rw [type?_eq_some_iff, arena.unique.findType?_eq_some_iff]

/-- Types have one index. -/
theorem ext_types (same : arena.types = other.types) : arena = other := by
  obtain ⟨types, index, inStep⟩ := arena
  obtain ⟨others, otherIndex, otherInStep⟩ := other
  obtain rfl : types = others := same
  obtain rfl := inStep.unique otherInStep
  rfl

end Arena

namespace Model

variable (model : Model) {declarations : Declarations}

theorem type?_eq : model.type? = findType? model.types := model.toArena.type?_eq

theorem object?_eq : model.object? = findObject? model.types := by
  funext name
  rw [object?, type?_eq, findObject?]

/-- Relations are what they are when the types are searched for every name. -/
theorem relations_eq : (ofDeclarations declarations).relations =
    Relation.resolve (findType? (ofDeclarations declarations).types)
      (ofDeclarations declarations).types := by
  rw [← type?_eq]
  rfl

/-- So is all that there is to say about the model. -/
theorem diagnostics_eq : model.diagnostics = model.conflicts
    ++ model.types.flatMap (Validation.type (findType? model.types) model.profiles)
    ++ model.profiles.entries.flatMap (fun entry => Validation.profile entry.1 entry.2)
    ++ model.bundles.flatMap (Validation.bundle (findType? model.types)) := by
  rw [diagnostics, type?_eq]

end Model
end TypeGraph
