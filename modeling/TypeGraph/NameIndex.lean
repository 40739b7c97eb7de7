import TypeGraph.Dictionary

/-! Positions by name. Of a list that only grows, a dictionary can keep where each name stands; it is
in step with the list as long as every name that is put behind is new. -/
namespace TypeGraph.Dictionary

/-- The dictionary leads from each of the names to the position where it stands, and from nothing
else. -/
def Indexes (index : Dictionary Nat) (names : List String) : Prop :=
  ∀ name position, index.get? name = some position ↔ names[position]? = some name

/-- Where each of the names stands. -/
def positions (names : List String) : Dictionary Nat := ofList names.zipIdx

namespace Indexes

variable {index : Dictionary Nat} {names : List String} {name : String} {position : Nat}

theorem empty : (Dictionary.empty : Dictionary Nat).Indexes [] :=
  fun _ _ => iff_of_false nofun (by simp)

theorem get?_eq_none_iff (indexes : index.Indexes names) :
    index.get? name = none ↔ name ∉ names := by
  rw [Option.eq_none_iff_forall_ne_some, List.mem_iff_getElem?, not_exists]
  exact forall_congr' fun position => not_congr (indexes name position)

theorem contains_eq_false_iff (indexes : index.Indexes names) :
    index.contains name = false ↔ name ∉ names := by
  rw [contains, Option.isSome_eq_false_iff, Option.isNone_iff_eq_none, indexes.get?_eq_none_iff]

theorem lt_length (indexes : index.Indexes names) (found : index.get? name = some position) :
    position < names.length :=
  (List.getElem?_eq_some_iff.mp ((indexes name position).mp found)).1

/-- A new name gets the position behind all others. -/
theorem push (indexes : index.Indexes names) (fresh : name ∉ names) :
    (index.insert name names.length).Indexes (names ++ [name]) := by
  intro other position
  rw [get?_insert]
  by_cases same : other = name
  · subst same
    rw [if_pos rfl, Option.some_inj]
    constructor
    · rintro rfl
      exact List.getElem?_concat_length
    · intro stands
      rcases Nat.lt_trichotomy position names.length with before | last | behind
      · rw [List.getElem?_append_left before] at stands
        exact absurd (List.mem_of_getElem? stands) fresh
      · exact last.symm
      · rw [List.getElem?_eq_none (by rwa [List.length_append])] at stands
        cases stands
  · rw [if_neg same, indexes]
    by_cases before : position < names.length
    · rw [List.getElem?_append_left before]
    · rw [List.getElem?_eq_none (Nat.le_of_not_lt before),
        List.getElem?_append_right (Nat.le_of_not_lt before)]
      refine iff_of_false nofun fun stands => same ?_
      simpa using List.mem_of_getElem? stands

theorem insertAll (indexes : index.Indexes names) {others : List String}
    (distinct : (names ++ others).Nodup) :
    (index.insertAll (others.zipIdx names.length)).Indexes (names ++ others) := by
  induction others generalizing index names with
  | nil => simpa [Dictionary.insertAll] using indexes
  | cons name rest ih =>
    have fresh : name ∉ names := fun member =>
      (List.nodup_append.mp distinct).2.2 name member name List.mem_cons_self rfl
    have next := ih (indexes.push fresh) (by simpa using distinct)
    simpa [Dictionary.insertAll, List.zipIdx_cons] using next

theorem ofNames (distinct : names.Nodup) : (positions names).Indexes names :=
  insertAll empty distinct

end Indexes
end TypeGraph.Dictionary
