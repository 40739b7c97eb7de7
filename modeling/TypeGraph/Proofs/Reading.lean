import TypeGraph.Document.Union
import TypeGraph.Proofs.Dictionary
import Mathlib.Data.List.Forall2

/-! What decoders make of JSON values. A JSON value has no aliases and nothing untyped in it, so a
decoder that reads it gives a value and changes nothing else. Records are read member by member: what
counts is which members there are, not where they stand. -/
namespace TypeGraph

variable {α β : Type} {dialect : Dialect}

namespace Json

mutual

/-- How many containers stand in each other. -/
def depth : Json → Nat
  | null | bool _ | num _ | str _ => 0
  | arr items => depthOfItems items + 1
  | obj members => depthOfMembers members + 1

def depthOfItems : List Json → Nat
  | [] => 0
  | item :: rest => max item.depth (depthOfItems rest)

def depthOfMembers : List (String × Json) → Nat
  | [] => 0
  | (_, value) :: rest => max value.depth (depthOfMembers rest)

end

theorem depthOfItems_le_iff {items : List Json} {n : Nat} :
    depthOfItems items ≤ n ↔ ∀ item ∈ items, item.depth ≤ n := by
  induction items with
  | nil => simp [depthOfItems]
  | cons item rest ih => simp [depthOfItems, ih]

theorem depthOfMembers_le_iff {members : List (String × Json)} {n : Nat} :
    depthOfMembers members ≤ n ↔ ∀ member ∈ members, member.2.depth ≤ n := by
  induction members with
  | nil => simp [depthOfMembers]
  | cons member rest ih => simp [depthOfMembers, ih]

end Json

namespace Tree

mutual

/-- The tree of a JSON value has no place where a text breaks off. -/
theorem isWhole_ofJson : (json : Json) → (ofJson json).isWhole = true
  | .null | .bool _ | .num _ | .str _ => rfl
  | .arr items => by simp [ofJson, isWhole, areWhole_ofItems items]
  | .obj members => by simp [ofJson, isWhole, entriesAreWhole_ofMembers members]

theorem areWhole_ofItems : (items : List Json) → areWhole (ofItems items) = true
  | [] => rfl
  | item :: rest => by simp [ofItems, areWhole, isWhole_ofJson item, areWhole_ofItems rest]

theorem entriesAreWhole_ofMembers :
    (members : List (String × Json)) → entriesAreWhole (ofMembers members) = true
  | [] => rfl
  | (name, value) :: rest => by
    simp [ofMembers, entriesAreWhole, text, isWhole, isWhole_ofJson value,
      entriesAreWhole_ofMembers rest]

end

mutual

/-- A JSON value is the same when it is read whole, if there is room for its containers. -/
theorem readWhole_ofJson {room : Nat} : (json : Json) → json.depth ≤ room →
    (ofJson json).readWhole room = pure (ofJson json)
  | .null, _ | .bool _, _ | .num _, _ | .str _, _ => rfl
  | .arr items, fits => by
    obtain ⟨room, rfl⟩ := Nat.exists_eq_add_of_le' (Nat.le_trans (Nat.le_add_left 1 _) fits)
    have inside := readItems_ofItems items (Nat.le_of_succ_le_succ fits)
    simp [ofJson, readWhole, enter, inside, Decoder.requireClosed]
  | .obj members, fits => by
    obtain ⟨room, rfl⟩ := Nat.exists_eq_add_of_le' (Nat.le_trans (Nat.le_add_left 1 _) fits)
    have inside := readEntries_ofMembers members (Nat.le_of_succ_le_succ fits)
    simp [ofJson, readWhole, enter, inside, Decoder.requireClosed]

theorem readItems_ofItems {room : Nat} : (items : List Json) → Json.depthOfItems items ≤ room →
    readItems room (ofItems items) = pure (ofItems items)
  | [], _ => rfl
  | item :: rest, fits => by
    obtain ⟨first, later⟩ := Nat.max_le.mp fits
    simp [ofItems, readItems, readWhole_ofJson item first, readItems_ofItems rest later]

theorem readEntries_ofMembers {room : Nat} :
    (members : List (String × Json)) → Json.depthOfMembers members ≤ room →
    readEntries room (ofMembers members) = pure (ofMembers members)
  | [], _ => rfl
  | (name, value) :: rest, fits => by
    obtain ⟨first, later⟩ := Nat.max_le.mp fits
    simp [ofMembers, readEntries, text, readWhole, readWhole_ofJson value first,
      readEntries_ofMembers rest later]

end

end Tree

namespace Decoder

/-- By any rules, what is decoded is the value, and nothing else happens. -/
def Reads (decode : Decoder α) (json : Json) (value : α) : Prop :=
  ∀ dialect, decode dialect (.ofJson json) = pure value

theorem Reads.map {decode : Decoder α} {json : Json} {value : α} (f : α → β)
    (reads : decode.Reads json value) :
    Reads (fun dialect tree => f <$> decode dialect tree) json (f value) :=
  fun dialect => congrArg (f <$> ·) (reads dialect)

theorem reads_string (value : String) : string.Reads (.str value) value := fun _ => rfl

theorem reads_bool (value : Bool) : bool.Reads (.bool value) value := fun _ => rfl

theorem reads_word (value : UInt32) : word.Reads (.num value.toNat) value := by
  intro dialect
  have small : value.toNat < UInt32.size := value.toNat_lt
  simp [word, Tree.ofJson, Tree.follow, small]

theorem reads_nullable {decode : Decoder α} {json : Json} {value : α} (present : json ≠ .null)
    (reads : decode.Reads json value) : (nullable decode).Reads json (some value) := by
  intro dialect
  have decoded : nullable decode dialect (.ofJson json) = some <$> decode dialect (.ofJson json) := by
    cases json with
    | null => exact absurd rfl present
    | bool | num | str | arr | obj => rfl
  rw [decoded, reads]
  rfl

theorem mapM_ofItems {decode : Decoder α} {items : List Json} {values : List α}
    (reads : List.Forall₂ decode.Reads items values) (dialect : Dialect) :
    (Tree.ofItems items).mapM (decode dialect) = (pure values : Reading (List α)) := by
  induction reads with
  | nil => rfl
  | cons first _ ih => simp [Tree.ofItems, List.mapM_cons, first dialect, ih]

theorem reads_list {decode : Decoder α} {items : List Json} {values : List α}
    (reads : List.Forall₂ decode.Reads items values) :
    (list decode).Reads (.arr items) values := by
  intro dialect
  simp [list, Tree.ofJson, Tree.follow, mapM_ofItems reads, requireClosed]

theorem key_text (dialect : Dialect) (name : String) :
    key dialect (.text name) = (pure name : Reading String) := by
  cases dialect <;> rfl

/-- A loop that takes up one member at a time takes up all of them, from any start. -/
theorem foldlM_ofMembers {decode : Decoder α} {members : List (String × Json)}
    {entries : List (String × α)} {insert : Dictionary α → Tree × Tree → Reading (Dictionary α)}
    (inserts : ∀ result name json value, decode.Reads json value →
      insert result (.text name, .ofJson json) = pure (result.insert name value))
    (reads : List.Forall₂ (fun member entry => member.1 = entry.1 ∧ decode.Reads member.2 entry.2)
      members entries) (start : Dictionary α) :
    (Tree.ofMembers members).foldlM insert start = pure (start.insertAll entries) := by
  induction reads generalizing start with
  | nil => rfl
  | @cons member entry _ _ first _ ih =>
    obtain ⟨name, json⟩ := member
    obtain ⟨rfl, value⟩ := first
    rw [Tree.ofMembers, List.foldlM_cons, inserts _ _ _ _ value, pure_bind]
    exact ih _

/-- Entries with distinct keys are read into the dictionary that has them, in any order. -/
theorem reads_dictionary {decode : Decoder α} {members : List (String × Json)}
    {entries : List (String × α)} {result : Dictionary α}
    (reads : List.Forall₂ (fun member entry => member.1 = entry.1 ∧ decode.Reads member.2 entry.2)
      members entries)
    (perm : entries.Perm result.entries) : (dictionary decode).Reads (.obj members) result := by
  intro dialect
  simp only [dictionary, Tree.ofJson, Tree.follow, pure_bind, requireClosed]
  rw [foldlM_ofMembers (fun _ _ _ _ value => ?_) reads, Dictionary.insertAll_perm perm]
  · rfl
  · simp only [key_text, value dialect, pure_bind]

/-- The name of an alternative chooses it. -/
theorem reads_oneOf {options : List (String × α)} {name : String} {value : α}
    (picked : pick options name = pure value) : (oneOf options).Reads (.str name) value := by
  intro dialect
  cases dialect <;> exact picked

end Decoder

namespace Record

variable {record : Record α} {members : List (String × Json)} {name : String} {json : Json}

theorem fieldOf?_text (names : List String) (dialect : Dialect) (name : String) :
    fieldOf? names dialect (.text name) =
      (pure (if name ∈ names then some name else none) : Reading _) := by
  have key := Decoder.key_text dialect name
  cases dialect <;> simp [fieldOf?, Tree.text] at key ⊢ <;> simp [key]

theorem skip_ofJson (dialect : Dialect) (json : Json) :
    Decoder.skip dialect (.ofJson json) = (pure () : Reading Unit) := by
  cases dialect <;> simp [Decoder.skip, Decoder.requireClosed, Tree.isWhole_ofJson]

/-- Reading members one after the other: those of the record's own names change its state, the others
are stepped over. -/
inductive Run (record : Record α) (dialect : Dialect) :
    record.State → List (String × Json) → record.State → Prop
  | nil (state : record.State) : Run record dialect state [] state
  | read {state middle final : record.State} {name : String} {json : Json}
      {rest : List (String × Json)} (known : name ∈ record.names)
      (step : record.read dialect name (.ofJson json) state = pure middle)
      (later : Run record dialect middle rest final) :
      Run record dialect state ((name, json) :: rest) final
  | skip {state final : record.State} {name : String} {json : Json} {rest : List (String × Json)}
      (unknown : name ∉ record.names) (later : Run record dialect state rest final) :
      Run record dialect state ((name, json) :: rest) final

theorem Run.readEntries_eq {state final : record.State}
    (run : record.Run dialect state members final) :
    record.readEntries dialect state (Tree.ofMembers members) = pure final := by
  induction run with
  | nil => rfl
  | read known step _ ih => simp [Tree.ofMembers, readEntries, fieldOf?_text, known, step, ih]
  | skip unknown _ ih => simp [Tree.ofMembers, readEntries, fieldOf?_text, unknown, skip_ofJson, ih]

theorem Run.map (f : α → β) {state final : record.State}
    (run : record.Run dialect state members final) :
    (record.map f).Run dialect state members final := by
  induction run with
  | nil => exact .nil _
  | read known step _ ih => exact .read known step ih
  | skip unknown _ ih => exact .skip unknown ih

/-- Records without a common name read the same members side by side: a member that one of them reads
is stepped over by the other. -/
theorem Run.both {first : Record α} {second : Record β}
    (disjoint : ∀ name ∈ first.names, name ∉ second.names) {left leftFinal : first.State}
    {right rightFinal : second.State} (leftRun : first.Run dialect left members leftFinal)
    (rightRun : second.Run dialect right members rightFinal) :
    (first.both second).Run dialect (left, right) members (leftFinal, rightFinal) := by
  induction leftRun generalizing right with
  | nil =>
    cases rightRun
    exact .nil _
  | read known step _ ih =>
    cases rightRun with
    | read other => exact absurd other (disjoint _ known)
    | skip _ later =>
      exact .read (by simp [Record.both, known]) (by simp [Record.both, known, step]) (ih later)
  | skip unknown _ ih =>
    cases rightRun with
    | read known step later =>
      exact .read (by simp [Record.both, known]) (by simp [Record.both, unknown, step]) (ih later)
    | skip other later => exact .skip (by simp [Record.both, unknown, other]) (ih later)

variable {decode : Decoder α} {missing : Layout → Option α}

theorem Run.field_absent (absent : name ∉ members.map (·.1)) (state : Option α) :
    (field name decode missing).Run dialect state members state := by
  induction members with
  | nil => exact .nil _
  | cons member rest ih =>
    simp only [List.map_cons, List.mem_cons, not_or] at absent
    exact .skip (by simpa [field] using Ne.symm absent.1) (ih absent.2)

theorem Run.field_present (distinct : (members.map (·.1)).Nodup) (present : (name, json) ∈ members)
    {value : α} (reads : decode.Reads json value) :
    (field name decode missing).Run dialect none members (some value) := by
  induction members with
  | nil => cases present
  | cons member rest ih =>
    obtain ⟨fresh, distinct⟩ := List.nodup_cons.mp distinct
    rcases List.mem_cons.mp present with rfl | later
    · refine .read (by simp [field]) ?_ (.field_absent fresh _)
      simp [field, reads dialect]
    · have apart : member.1 ≠ name := (key_ne_of_fresh fresh later).symm
      exact .skip (by simpa [field] using apart) (ih distinct later)

/-- The record comes out as the value, unless two of its fields have the same name. -/
def Yields (record : Record α) (members : List (String × Json)) (value : α) : Prop :=
  record.names.Nodup → ∀ dialect, ∃ final, record.Run dialect record.start members final ∧
    record.finish .named final = .ok value

theorem Yields.map {value : α} (f : α → β) (yields : record.Yields members value) :
    (f <$> record).Yields members (f value) := by
  intro names dialect
  obtain ⟨final, run, finished⟩ := yields names dialect
  refine ⟨final, run.map f, ?_⟩
  show f <$> record.finish .named final = _
  rw [finished]
  rfl

theorem Yields.seq {fields : Record (α → β)} {f : α → β} {value : α}
    (first : fields.Yields members f) (second : record.Yields members value) :
    (fields <*> record).Yields members (f value) := by
  intro names dialect
  obtain ⟨firstNames, secondNames, apart⟩ := List.nodup_append.mp names
  obtain ⟨left, leftRun, leftDone⟩ := first firstNames dialect
  obtain ⟨right, rightRun, rightDone⟩ := second secondNames dialect
  have disjoint : ∀ name ∈ fields.names, name ∉ record.names :=
    fun name here there => apart name here name there rfl
  refine ⟨(left, right), (leftRun.both disjoint rightRun).map _, ?_⟩
  show (fun pair : (α → β) × α => pair.1 pair.2) <$> (Record.both fields record).finish .named
    (left, right) = _
  simp [Record.both, leftDone, rightDone]
  rfl

theorem Yields.ofEntries_eq {value : α} (yields : record.Yields members value)
    (names : record.names.Nodup) (dialect : Dialect) :
    record.ofEntries dialect (Tree.ofMembers members) true = pure value := by
  obtain ⟨final, run, finished⟩ := yields names dialect
  simp [ofEntries, run.readEntries_eq, Decoder.requireClosed, finished]

theorem Yields.reads {value : α} (yields : record.Yields members value)
    (names : record.names.Nodup) (title : String) :
    (record.decode title).Reads (.obj members) value := by
  intro dialect
  simp [decode, Tree.ofJson, Tree.follow, yields.ofEntries_eq names]

end Record

namespace Union

variable {union : Union α} {members : List (String × Json)} {name : String} {room : Nat}

theorem readEntries_untagged (untagged : union.tag ∉ members.map (·.1))
    (fits : Json.depthOfMembers members ≤ room) (chosen : Option (Decoder α)) :
    union.readEntries dialect room chosen (Tree.ofMembers members) =
      pure (chosen, Tree.ofMembers members) := by
  induction members with
  | nil => rfl
  | cons member rest ih =>
    obtain ⟨first, later⟩ := Nat.max_le.mp fits
    simp only [List.map_cons, List.mem_cons, not_or] at untagged
    simp [Tree.ofMembers, readEntries, Tree.text, Tree.readWhole, Ne.symm untagged.1,
      Tree.readWhole_ofJson member.2 first, ih untagged.2 later]

/-- The tag is taken out wherever it stands. -/
theorem readEntries_tagged (tagged : (union.tag, .str name) ∈ members)
    (distinct : (members.map (·.1)).Nodup) (fits : Json.depthOfMembers members ≤ room)
    {chosen : Decoder α} (picked : Decoder.pick union.variants name = pure chosen) :
    union.readEntries dialect room none (Tree.ofMembers members) =
      pure (some chosen, Tree.ofMembers (members.filter (·.1 ≠ union.tag))) := by
  induction members with
  | nil => cases tagged
  | cons member rest ih =>
    obtain ⟨first, later⟩ := Nat.max_le.mp fits
    obtain ⟨fresh, distinct⟩ := List.nodup_cons.mp distinct
    rcases List.mem_cons.mp tagged with rfl | inRest
    · have named : Decoder.variantName union.variants dialect (.ofJson (.str name)) = pure chosen := by
        simpa [Decoder.variantName, Tree.ofJson, Tree.text, Tree.follow] using picked
      have others : ((union.tag, Json.str name) :: rest).filter (·.1 ≠ union.tag) = rest := by
        rw [List.filter_cons_of_neg (by simp), filter_key_ne_of_fresh fresh]
      rw [others]
      simp [Tree.ofMembers, readEntries, Tree.text, Tree.readWhole, named,
        readEntries_untagged fresh later]
    · have apart : member.1 ≠ union.tag := (key_ne_of_fresh fresh inRest).symm
      simp [Tree.ofMembers, readEntries, Tree.text, Tree.readWhole, apart,
        Tree.readWhole_ofJson member.2 first, ih inRest distinct later]

/-- A tagged object is what the chosen decoder makes of its other members. -/
theorem reads {value : α} (tagged : (union.tag, .str name) ∈ members)
    (distinct : (members.map (·.1)).Nodup)
    (fits : ∀ dialect : Dialect, Json.depthOfMembers members ≤ dialect.depthLimit - union.depth)
    {chosen : Decoder α} (picked : Decoder.pick union.variants name = pure chosen)
    (reads : chosen.Reads (.obj (members.filter (·.1 ≠ union.tag))) value) :
    union.decode.Reads (.obj members) value := by
  intro dialect
  simp only [decode, Tree.ofJson, Tree.follow, pure_bind, ofContainer,
    readEntries_tagged tagged distinct (fits dialect) picked, Decoder.requireClosed, if_true]
  exact reads .whole

end Union
end TypeGraph
