import TypeGraph.Dictionary
import TypeGraph.Proofs.Lookup
import Mathlib.Data.List.Sort

/-! Dictionaries are told apart by their lookups alone, so a dictionary that is filled entry by entry
depends on the order of the entries only where two of them have one key. -/
namespace TypeGraph.Dictionary

variable {α : Type} {first second : Dictionary α} {key other : String} {value : α}
  {entries : List (String × α)}

theorem nodup_keys (dictionary : Dictionary α) : (dictionary.entries.map (·.1)).Nodup :=
  List.pairwise_map.mpr (dictionary.sorted.imp fun less => String.ne_of_lt less)

/-- The entries are what the lookup says. -/
theorem get?_eq_some_iff {dictionary : Dictionary α} :
    dictionary.get? key = some value ↔ (key, value) ∈ dictionary.entries := by
  rw [get?, Option.map_eq_some_iff]
  constructor
  · rintro ⟨entry, found, rfl⟩
    obtain ⟨member, rfl⟩ := (find?_key_eq_some_iff dictionary.nodup_keys).mp found
    exact member
  · intro member
    exact ⟨_, (find?_key_eq_some_iff dictionary.nodup_keys).mpr ⟨member, rfl⟩, rfl⟩

theorem get?_eq_none_iff {dictionary : Dictionary α} :
    dictionary.get? key = none ↔ key ∉ dictionary.keys := by
  simp only [get?, keys, Option.map_eq_none_iff, List.find?_eq_none, beq_iff_eq, List.mem_map,
    not_exists, not_and]

theorem get?_mapEntries {β : Type} (f : String → α → β) (dictionary : Dictionary α) :
    (dictionary.mapEntries f).get? key = (dictionary.get? key).map (f key) := by
  refine Option.ext fun value => ?_
  rw [get?_eq_some_iff, Option.map_eq_some_iff]
  simp only [get?_eq_some_iff, mapEntries, List.mem_map, Prod.ext_iff]
  constructor
  · rintro ⟨⟨_, before⟩, member, rfl, rfl⟩
    exact ⟨before, member, rfl⟩
  · rintro ⟨before, member, rfl⟩
    exact ⟨(key, before), member, rfl, rfl⟩

theorem contains_mapEntries {β : Type} (f : String → α → β) (dictionary : Dictionary α) :
    (dictionary.mapEntries f).contains key = dictionary.contains key := by
  rw [contains, get?_mapEntries, Option.isSome_map, contains]

/-- Dictionaries that answer alike are equal. -/
theorem ext_get? (same : ∀ key, first.get? key = second.get? key) : first = second := by
  have antisymm : Std.Antisymm fun a b : String × α => a.1 < b.1 :=
    ⟨fun _ _ less greater => absurd greater (String.lt_asymm less)⟩
  have irrefl : Std.Irrefl fun a b : String × α => a.1 < b.1 := ⟨fun _ => String.lt_irrefl _⟩
  have members : ∀ entry, entry ∈ first.entries ↔ entry ∈ second.entries := by
    rintro ⟨key, value⟩
    rw [← get?_eq_some_iff, ← get?_eq_some_iff, same]
  have entries := first.sorted.eq_of_mem_iff second.sorted members
  cases first
  cases second
  cases entries
  rfl

@[simp] theorem get?_empty : (empty : Dictionary α).get? key = none := rfl

/-- Entries with distinct keys count as they are, behind them the dictionary that they go into. -/
theorem get?_insertAll (distinct : (entries.map (·.1)).Nodup) (dictionary : Dictionary α) :
    (dictionary.insertAll entries).get? key =
      ((entries.find? (·.1 == key)).map (·.2)).or (dictionary.get? key) := by
  induction entries generalizing dictionary with
  | nil => simp [insertAll]
  | cons entry rest ih =>
    obtain ⟨fresh, distinct⟩ := List.nodup_cons.mp distinct
    have step : dictionary.insertAll (entry :: rest) =
        (dictionary.insert entry.1 entry.2).insertAll rest := rfl
    rw [step, ih distinct, get?_insert]
    by_cases same : entry.1 = key
    · have absent : rest.find? (·.1 == key) = none := by
        refine List.find?_eq_none.mpr fun other member => ?_
        have apart : other.1 ≠ key := same ▸ key_ne_of_fresh fresh member
        simpa using apart
      simp [same, absent]
    · simp [same, Ne.symm same]

theorem get?_override : (first.override second).get? key = (second.get? key).or (first.get? key) :=
  get?_insertAll second.nodup_keys first

/-- The bindings of both, combined where both have one. -/
def unionWith (combine : α → α → α) (dictionary other : Dictionary α) : Dictionary α :=
  dictionary.override <| other.mapEntries fun key late =>
    ((dictionary.get? key).map (combine · late)).getD late

theorem get?_unionWith (combine : α → α → α) : (first.unionWith combine second).get? key =
    Option.merge combine (first.get? key) (second.get? key) := by
  rw [unionWith, get?_override, get?_mapEntries]
  cases first.get? key <;> cases second.get? key <;> rfl

/-- A dictionary is filled by its entries in any order. -/
theorem insertAll_perm {dictionary : Dictionary α} (perm : entries.Perm dictionary.entries) :
    empty.insertAll entries = dictionary := by
  have distinct : (entries.map (·.1)).Nodup := (perm.map _).nodup_iff.mpr dictionary.nodup_keys
  refine ext_get? fun key => Option.ext fun value => ?_
  rw [get?_insertAll distinct, get?_empty, Option.or_none, get?_eq_some_iff, ← perm.mem_iff,
    Option.map_eq_some_iff]
  constructor
  · rintro ⟨entry, found, rfl⟩
    obtain ⟨member, rfl⟩ := (find?_key_eq_some_iff distinct).mp found
    exact member
  · intro member
    exact ⟨_, (find?_key_eq_some_iff distinct).mpr ⟨member, rfl⟩, rfl⟩

end TypeGraph.Dictionary
