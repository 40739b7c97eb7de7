import TypeGraph.Namespace

/-! Dotted names. A text is cut into the only parts without a separator that it consists of, so every
dotted name spells one path. -/
namespace TypeGraph

namespace Text

variable {separator : Char}

theorem cut_eq_splitOn (text : List Char) : cut separator text = text.splitOn separator := by
  induction text with
  | nil => rfl
  | cons c rest ih =>
    rw [List.splitOn_cons_eq_if_modifyHead, cut, ih]
    by_cases same : c = separator
    · simp [same]
    · cases parts : rest.splitOn separator with
      | nil => exact absurd parts (List.splitOn_ne_nil separator rest)
      | cons first others => simp [same]

theorem not_mem_of_mem_cut {text part : List Char} (member : part ∈ cut separator text) :
    separator ∉ part := by
  induction text generalizing part with
  | nil => simp_all [cut]
  | cons c rest ih =>
    unfold cut at member
    split at member
    · rcases List.mem_cons.mp member with rfl | later
      · exact List.not_mem_nil
      · exact ih later
    · next apart =>
      split at member
      · cases List.mem_singleton.mp member
        simpa using Ne.symm apart
      · next first others parts =>
        rcases List.mem_cons.mp member with rfl | later
        · simpa [Ne.symm apart] using ih (parts ▸ List.mem_cons_self)
        · exact ih (parts ▸ List.mem_cons_of_mem _ later)

theorem split_eq_iff {text : String} {parts : List String} : split separator text = parts ↔
    parts ≠ [] ∧ (∀ part ∈ parts, separator ∉ part.toList) ∧
      String.intercalate (String.singleton separator) parts = text := by
  constructor
  · rintro rfl
    refine ⟨?_, ?_, ?_⟩
    · simp [split, cut_eq_splitOn, List.splitOn_ne_nil]
    · intro part member
      obtain ⟨stretch, within, rfl⟩ := List.mem_map.mp member
      rw [String.toList_ofList]
      exact not_mem_of_mem_cut within
    · apply String.toList_inj.mp
      simp [split, cut_eq_splitOn, Function.comp_def, String.toList_intercalate,
        List.intercalate_splitOn]
  · rintro ⟨nonempty, plain, rfl⟩
    have stretches : ∀ stretch ∈ parts.map String.toList, separator ∉ stretch := by
      intro stretch member
      obtain ⟨part, listed, rfl⟩ := List.mem_map.mp member
      exact plain part listed
    rw [split, cut_eq_splitOn, String.toList_intercalate, String.toList_singleton,
      List.splitOn_intercalate separator stretches (by simpa using nonempty)]
    simp [Function.comp_def]

end Text

namespace Namespace

/-- The dotted name has the segments of the path with dots between them, and no dots within. The
empty name is the root and not a path with an empty segment. -/
inductive Spells : String → List String → Prop where
  | root : Spells "" []
  | inner {dotted : String} {path : List String} (named : dotted ≠ "")
      (plain : ∀ segment ∈ path, '.' ∉ segment.toList)
      (joined : String.intercalate "." path = dotted) : Spells dotted path

theorem pathOfDotted_eq_iff {dotted : String} {path : List String} :
    pathOfDotted dotted = path ↔ Spells dotted path := by
  unfold pathOfDotted
  split
  · next empty =>
    subst empty
    constructor
    · rintro rfl
      exact .root
    · intro spells
      cases spells with
      | root => rfl
      | inner named => exact absurd rfl named
  · next named =>
    rw [Text.split_eq_iff]
    constructor
    · rintro ⟨_, plain, joined⟩
      exact .inner named plain joined
    · intro spells
      cases spells with
      | root => exact absurd rfl named
      | inner _ plain joined =>
        refine ⟨?_, plain, joined⟩
        rintro rfl
        exact named joined.symm

/-- Two dots in a row have an empty segment between them. -/
example : pathOfDotted "places..ports" = ["places", "", "ports"] := by decide +kernel

end Namespace
end TypeGraph
