/-! Finite maps from texts, kept in the order of their keys. An entry list that increases strictly
is the only one of its map, so two dictionaries that answer alike are equal. -/
namespace TypeGraph

/-- Entries in strictly increasing order of their keys. -/
structure Dictionary (α : Type) where
  entries : List (String × α)
  sorted : entries.Pairwise (fun a b => a.1 < b.1)
  deriving DecidableEq

namespace Dictionary
variable {α β : Type}

/-- Entries with `key` bound to `value`, in place or where the order wants it. -/
def insertEntry (key : String) (value : α) : List (String × α) → List (String × α)
  | [] => [(key, value)]
  | entry :: rest =>
    if key < entry.1 then (key, value) :: entry :: rest
    else if entry.1 < key then entry :: insertEntry key value rest
    else (key, value) :: rest

theorem key_of_mem_insertEntry {key : String} {value : α} {entries : List (String × α)}
    {entry : String × α} (member : entry ∈ insertEntry key value entries) :
    entry.1 = key ∨ entry ∈ entries := by
  induction entries with
  | nil => simp_all [insertEntry]
  | cons head rest ih =>
    unfold insertEntry at member
    split at member
    · rcases List.mem_cons.mp member with rfl | old
      · exact .inl rfl
      · exact .inr old
    · split at member
      · rcases List.mem_cons.mp member with rfl | old
        · exact .inr (List.mem_cons_self ..)
        · exact (ih old).imp_right (List.mem_cons_of_mem _)
      · rcases List.mem_cons.mp member with rfl | old
        · exact .inl rfl
        · exact .inr (List.mem_cons_of_mem _ old)

theorem sorted_insertEntry (key : String) (value : α) {entries : List (String × α)}
    (sorted : entries.Pairwise (fun a b => a.1 < b.1)) :
    (insertEntry key value entries).Pairwise (fun a b => a.1 < b.1) := by
  induction entries with
  | nil => simp [insertEntry]
  | cons head rest ih =>
    obtain ⟨below, ordered⟩ := List.pairwise_cons.mp sorted
    unfold insertEntry
    split
    · next less =>
      refine List.pairwise_cons.mpr ⟨fun entry member => ?_, sorted⟩
      rcases List.mem_cons.mp member with rfl | old
      · exact less
      · exact String.lt_trans less (below entry old)
    · split
      · next greater =>
        refine List.pairwise_cons.mpr ⟨fun entry member => ?_, ih ordered⟩
        rcases key_of_mem_insertEntry member with same | old
        · exact same ▸ greater
        · exact below entry old
      · next notLess notGreater =>
        have same : head.1 = key :=
          String.le_antisymm (String.not_lt.mp notLess) (String.not_lt.mp notGreater)
        exact List.pairwise_cons.mpr ⟨same ▸ below, ordered⟩

/-- Where entries have one more, its key leads to its value, and every other key leads to what it led
to before. -/
theorem find?_insertEntry {key other : String} {value : α} {entries : List (String × α)} :
    ((insertEntry key value entries).find? (·.1 == other)).map (·.2) =
      if other = key then some value else (entries.find? (·.1 == other)).map (·.2) := by
  by_cases same : key = other
  · subst same
    rw [if_pos rfl]
    induction entries with
    | nil => simp [insertEntry]
    | cons head rest ih =>
      unfold insertEntry
      split
      · simp
      · split
        · next greater => simpa [String.ne_of_lt greater] using ih
        · simp
  · rw [if_neg (Ne.symm same)]
    induction entries with
    | nil => simp [insertEntry, same]
    | cons head rest ih =>
      unfold insertEntry
      split
      · simp [same]
      · split
        · cases here : head.1 == other <;> simp [here, ih]
        · next notLess notGreater =>
          obtain rfl : head.1 = key :=
            String.le_antisymm (String.not_lt.mp notLess) (String.not_lt.mp notGreater)
          simp [same]

def empty : Dictionary α := ⟨[], .nil⟩

instance : EmptyCollection (Dictionary α) := ⟨empty⟩
instance : Inhabited (Dictionary α) := ⟨empty⟩

def keys (dictionary : Dictionary α) : List String := dictionary.entries.map (·.1)

def values (dictionary : Dictionary α) : List α := dictionary.entries.map (·.2)

def get? (dictionary : Dictionary α) (key : String) : Option α :=
  (dictionary.entries.find? (·.1 == key)).map (·.2)

def contains (dictionary : Dictionary α) (key : String) : Bool := (dictionary.get? key).isSome

/-- Bind `key` to `value`, whatever it was bound to before. -/
def insert (dictionary : Dictionary α) (key : String) (value : α) : Dictionary α :=
  ⟨insertEntry key value dictionary.entries, sorted_insertEntry key value dictionary.sorted⟩

theorem get?_insert {key other : String} {value : α} (dictionary : Dictionary α) :
    (dictionary.insert key value).get? other =
      if other = key then some value else dictionary.get? other :=
  find?_insertEntry

/-- Insert entries one after the other: of two with the same key the later stays. -/
def insertAll (dictionary : Dictionary α) (entries : List (String × α)) : Dictionary α :=
  entries.foldl (fun result entry => result.insert entry.1 entry.2) dictionary

def ofList (entries : List (String × α)) : Dictionary α := empty.insertAll entries

/-- The bindings of both, those of `other` where both have one. -/
def override (dictionary other : Dictionary α) : Dictionary α := dictionary.insertAll other.entries

/-- Replace every value, with its key at hand. -/
def mapEntries (f : String → α → β) (dictionary : Dictionary α) : Dictionary β :=
  ⟨dictionary.entries.map fun entry => (entry.1, f entry.1 entry.2),
    List.pairwise_map.mpr dictionary.sorted⟩

end Dictionary
end TypeGraph
