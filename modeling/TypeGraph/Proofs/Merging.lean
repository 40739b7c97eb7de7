import TypeGraph.Declaration
import TypeGraph.Proofs.Dictionary

/-! Merging sources is appending them: it may be done in any grouping, and the empty declarations
count for nothing. Of the profiles that sources give to one name the last one is left, as it is. -/
namespace TypeGraph

namespace Dictionary
variable {α : Type}

theorem override_assoc (first second third : Dictionary α) :
    (first.override second).override third = first.override (second.override third) := by
  refine ext_get? fun key => ?_
  rw [get?_override, get?_override, get?_override, get?_override, Option.or_assoc]

theorem empty_override (dictionary : Dictionary α) : empty.override dictionary = dictionary := by
  refine ext_get? fun key => ?_
  rw [get?_override, get?_empty, Option.or_none]

theorem override_empty (dictionary : Dictionary α) : dictionary.override empty = dictionary := by
  refine ext_get? fun key => ?_
  rw [get?_override, get?_empty, Option.none_or]

theorem get?_isSome_iff {dictionary : Dictionary α} {key : String} :
    (dictionary.get? key).isSome = true ↔ key ∈ dictionary.keys := by
  rw [← not_iff_not, ← get?_eq_none_iff]
  simp

end Dictionary

namespace Declarations

variable {sources : List Declarations}

theorem ext_parts {first second : Declarations} (types : first.types = second.types)
    (profiles : first.profiles = second.profiles) (bundles : first.bundles = second.bundles) :
    first = second := by
  cases first
  cases second
  cases types
  cases profiles
  cases bundles
  rfl

theorem foldl_merge (base : Declarations) : sources.foldl merge base =
    { types := base.types ++ sources.flatMap (·.types)
      profiles := sources.foldl (fun profiles source => profiles.override source.profiles) base.profiles
      bundles := base.bundles ++ sources.flatMap (·.bundles) } := by
  induction sources generalizing base with
  | nil => simp
  | cons source rest ih => simp [ih, merge]

theorem mergeAll_eq (sources : List Declarations) : mergeAll sources =
    { types := sources.flatMap (·.types)
      profiles := sources.foldl (fun profiles source => profiles.override source.profiles) ∅
      bundles := sources.flatMap (·.bundles) } :=
  foldl_merge empty

theorem merge_assoc (first second third : Declarations) :
    (first.merge second).merge third = first.merge (second.merge third) := by
  simp only [merge, List.append_assoc, Dictionary.override_assoc]

@[simp] theorem empty_merge (declarations : Declarations) : empty.merge declarations = declarations :=
  ext_parts rfl (Dictionary.empty_override _) rfl

@[simp] theorem merge_empty (declarations : Declarations) : declarations.merge empty = declarations :=
  ext_parts (List.append_nil _) (Dictionary.override_empty _) (List.append_nil _)

instance : Std.Associative merge := ⟨merge_assoc⟩

theorem mergeAll_cons (source : Declarations) (rest : List Declarations) :
    mergeAll (source :: rest) = source.merge (mergeAll rest) := by
  have whole : rest.foldl merge (source.merge empty) = source.merge (rest.foldl merge empty) :=
    List.foldl_assoc
  rw [mergeAll, List.foldl_cons, empty_merge, mergeAll, ← whole, merge_empty]

theorem mergeAll_append (earlier later : List Declarations) :
    mergeAll (earlier ++ later) = (mergeAll earlier).merge (mergeAll later) := by
  induction earlier with
  | nil => exact (empty_merge _).symm
  | cons source rest ih => rw [List.cons_append, mergeAll_cons, ih, mergeAll_cons, merge_assoc]

/-- Sources may be merged in groups first. -/
theorem mergeAll_flatten (groups : List (List Declarations)) :
    mergeAll groups.flatten = mergeAll (groups.map mergeAll) := by
  induction groups with
  | nil => rfl
  | cons group rest ih => rw [List.flatten_cons, mergeAll_append, ih, List.map_cons, mergeAll_cons]

/-- The profiles that the sources give to a name, in their order. -/
def profilesNamed (sources : List Declarations) (name : String) : List ProfileDecl :=
  sources.filterMap (·.profiles.get? name)

theorem get?_profiles_mergeAll (sources : List Declarations) (name : String) :
    (mergeAll sources).profiles.get? name = (profilesNamed sources name).getLast? := by
  induction sources with
  | nil => rfl
  | cons source rest ih =>
    have step : (mergeAll (source :: rest)).profiles.get? name =
        ((mergeAll rest).profiles.get? name).or (source.profiles.get? name) := by
      rw [mergeAll_cons]
      exact Dictionary.get?_override
    rw [step, ih]
    cases given : source.profiles.get? name with
    | none =>
      have same : profilesNamed (source :: rest) name = profilesNamed rest name := by
        simp [profilesNamed, given]
      rw [same, Option.or_none]
    | some profile =>
      have longer : profilesNamed (source :: rest) name = profile :: profilesNamed rest name := by
        simp [profilesNamed, given]
      rw [longer, List.getLast?_cons, Option.or_some]

theorem mem_keys_mergeAll_iff {name : String} : name ∈ (mergeAll sources).profiles.keys ↔
    ∃ source ∈ sources, name ∈ source.profiles.keys := by
  simp only [← Dictionary.get?_isSome_iff, get?_profiles_mergeAll, List.getLast?_isSome]
  simp [profilesNamed, List.filterMap_eq_nil_iff, Option.ne_none_iff_isSome]

/-- What merged sources hold: their types and their bundles one after the other, and under every
profile name that one of them declares the profile of the last that does. -/
structure Gathers (merged : Declarations) (sources : List Declarations) : Prop where
  types : merged.types = sources.flatMap (·.types)
  bundles : merged.bundles = sources.flatMap (·.bundles)
  names : ∀ name, name ∈ merged.profiles.keys ↔ ∃ source ∈ sources, name ∈ source.profiles.keys
  profiles : ∀ name, merged.profiles.get? name = (profilesNamed sources name).getLast?

theorem gathers_mergeAll (sources : List Declarations) : (mergeAll sources).Gathers sources := by
  constructor
  case types => rw [mergeAll_eq]
  case bundles => rw [mergeAll_eq]
  case names => exact fun name => mem_keys_mergeAll_iff
  case profiles => exact get?_profiles_mergeAll sources

/-- Merging is associative and has the empty declarations for a unit, so sources may be merged in any
grouping that keeps their order. Nothing of them is lost but profiles that a later one replaces. -/
theorem merge_in_any_grouping :
    (∀ first second third : Declarations,
      (first.merge second).merge third = first.merge (second.merge third)) ∧
    (∀ declarations : Declarations,
      empty.merge declarations = declarations ∧ declarations.merge empty = declarations) ∧
    (∀ earlier later, mergeAll (earlier ++ later) = (mergeAll earlier).merge (mergeAll later)) ∧
    (∀ groups : List (List Declarations), mergeAll groups.flatten = mergeAll (groups.map mergeAll)) ∧
    ∀ sources, (mergeAll sources).Gathers sources := by
  refine ⟨merge_assoc, fun declarations => ⟨?_, ?_⟩, mergeAll_append, mergeAll_flatten,
    gathers_mergeAll⟩
  · exact empty_merge declarations
  · exact merge_empty declarations

end Declarations
end TypeGraph
