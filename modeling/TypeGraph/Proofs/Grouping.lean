import TypeGraph.Proofs.Lookup
import Mathlib.Data.List.Basic
import Mathlib.Data.List.Induction
import Mathlib.Data.List.Perm.Basic

/-! Lists by their keys. Without its repetitions a list of keys has each once, where it stands first,
and items that are gathered key by key are the same items, those of one key as they stood. -/
namespace TypeGraph

variable {Item Key : Type} [BEq Key] [LawfulBEq Key]

theorem eraseDups_concat_of_mem {keys : List Key} {key : Key} (old : key ∈ keys) :
    (keys ++ [key]).eraseDups = keys.eraseDups := by
  simp [List.eraseDups_append, List.removeAll, old]

theorem eraseDups_concat_of_notMem {keys : List Key} {key : Key} (new : key ∉ keys) :
    (keys ++ [key]).eraseDups = keys.eraseDups ++ [key] := by
  simp [List.eraseDups_append, List.removeAll, List.eraseDups_cons, new]

/-- What is left of a list without its repetitions stands in the order of first places. -/
theorem sorted_eraseDups (keys : List Key) :
    keys.eraseDups.Pairwise (keys.idxOf · < keys.idxOf ·) := by
  induction keys using List.reverseRecOn with
  | nil => simp
  | append_singleton before key ih =>
    have kept : before.eraseDups.Pairwise
        ((before ++ [key]).idxOf · < (before ++ [key]).idxOf ·) := by
      refine ih.imp_of_mem fun {first second} left right less => ?_
      rwa [List.idxOf_append_of_mem (List.mem_eraseDups.mp left),
        List.idxOf_append_of_mem (List.mem_eraseDups.mp right)]
    by_cases old : key ∈ before
    · rwa [eraseDups_concat_of_mem old]
    · rw [eraseDups_concat_of_notMem old, List.pairwise_append]
      refine ⟨kept, List.pairwise_singleton .., fun earlier member last same => ?_⟩
      obtain rfl := List.mem_singleton.mp same
      have present := List.mem_eraseDups.mp member
      rw [List.idxOf_append_of_mem present, List.idxOf_append_of_notMem old]
      exact Nat.lt_of_lt_of_le (List.idxOf_lt_length_of_mem present) (Nat.le_add_right ..)

theorem nodup_eraseDups (keys : List Key) : keys.eraseDups.Nodup := by
  refine (sorted_eraseDups keys).imp fun {first second} less same => ?_
  subst same
  exact Nat.lt_irrefl _ less

/-- Items that are left out contribute nothing. -/
theorem flatMap_filter {Other : Type} {kept : Item → Bool} {f : Item → List Other}
    {items : List Item} :
    (items.filter kept).flatMap f = items.flatMap fun item => if kept item then f item else [] := by
  induction items with
  | nil => rfl
  | cons item rest ih => cases here : kept item <;> simp [here, ih]

variable {key : Item → Key} {keys : List Key} {items : List Item}

theorem flatMap_filter_perm_filter (distinct : keys.Nodup) :
    (keys.flatMap fun wanted => items.filter (key · == wanted)).Perm
      (items.filter fun item => keys.contains (key item)) := by
  induction keys with
  | nil => simp
  | cons wanted rest ih =>
    obtain ⟨fresh, distinct⟩ := List.nodup_cons.mp distinct
    have parts := List.filter_append_perm (key · == wanted)
      (items.filter fun item => (wanted :: rest).contains (key item))
    have here : (items.filter fun item => (wanted :: rest).contains (key item)).filter
        (key · == wanted) = items.filter (key · == wanted) := by
      rw [List.filter_filter]
      refine List.filter_congr fun item _ => ?_
      cases same : key item == wanted <;> simp [same]
    have later : (items.filter fun item => (wanted :: rest).contains (key item)).filter
        (!key · == wanted) = items.filter fun item => rest.contains (key item) := by
      rw [List.filter_filter]
      refine List.filter_congr fun item _ => ?_
      cases same : key item == wanted with
      | true => simp [beq_iff_eq.mp same, fresh]
      | false => simp [same]
    rw [here, later] at parts
    exact ((ih distinct).append_left _).trans parts

section Complete
variable (distinct : keys.Nodup) (complete : ∀ item ∈ items, key item ∈ keys)
include distinct complete

/-- Gathered by distinct keys, the items are all there, each as often as before. -/
theorem flatMap_filter_perm :
    (keys.flatMap fun wanted => items.filter (key · == wanted)).Perm items := by
  refine (flatMap_filter_perm_filter distinct).trans (List.Perm.of_eq ?_)
  refine List.filter_eq_self.mpr fun item member => ?_
  simpa using complete item member

/-- Gathered by distinct keys, the items of one key stand as they stood. -/
theorem filter_flatMap_filter (wanted : Key) :
    (keys.flatMap fun other => items.filter (key · == other)).filter (key · == wanted) =
      items.filter (key · == wanted) := by
  have elsewhere {others : List Key} (apart : wanted ∉ others) : (others.flatMap fun other =>
      (items.filter (key · == other)).filter (key · == wanted)) = [] := by
    refine List.flatMap_eq_nil_iff.mpr fun other member => ?_
    rw [List.filter_filter, List.filter_eq_nil_iff]
    intro item _ both
    simp only [Bool.and_eq_true, beq_iff_eq] at both
    exact apart (both.1.symm.trans both.2 ▸ member)
  by_cases listed : wanted ∈ keys
  · obtain ⟨front, back, rfl⟩ := List.append_of_mem listed
    obtain ⟨_, fresh, ahead⟩ := List.nodup_append.mp distinct
    have before : wanted ∉ front := fun member => ahead wanted member wanted List.mem_cons_self rfl
    rw [List.filter_flatMap, List.flatMap_append, List.flatMap_cons, elsewhere before,
      elsewhere (List.nodup_cons.mp fresh).1, List.filter_filter]
    simp
  · have none : items.filter (key · == wanted) = [] := by
      refine List.filter_eq_nil_iff.mpr fun item member same => ?_
      exact listed (beq_iff_eq.mp same ▸ complete item member)
    rw [List.filter_flatMap, elsewhere listed, none]

end Complete
end TypeGraph
