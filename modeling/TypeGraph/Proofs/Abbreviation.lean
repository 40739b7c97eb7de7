import TypeGraph.Declaration.Encode
import TypeGraph.Proofs.Reading
import Mathlib.Data.List.Perm.Basic

/-! Shorter ways to write a document. Authors leave out what has its default value, list members in
an order of their own, and give an enum value by its bare literal; each form of record says once what
it allows. -/
namespace TypeGraph

/-- Which values may stand for a written one: that value at least, null for nothing else, and none
that goes deeper. -/
structure Abbreviation where
  Allows : Json → Json → Prop
  self (json : Json) : Allows json json
  eq_null {full : Json} : Allows full .null → full = .null
  depth_le {full short : Json} : Allows full short → short.depth ≤ full.depth

namespace Abbreviation

/-- Nothing but the value itself. -/
def exact : Abbreviation where
  Allows full short := full = short
  self _ := rfl
  eq_null same := same
  depth_le same := same ▸ Nat.le_refl _

theorem depthOfItems_le {item : Abbreviation} {fulls shorts : List Json}
    (each : List.Forall₂ item.Allows fulls shorts) :
    Json.depthOfItems shorts ≤ Json.depthOfItems fulls := by
  induction each with
  | nil => exact Nat.le_refl _
  | cons first _ ih =>
    have shallow := item.depth_le first
    simp only [Json.depthOfItems]
    omega

/-- The items of a list, each on its own. -/
def list (item : Abbreviation) : Abbreviation where
  Allows full short := full = short ∨ ∃ fulls shorts,
    full = .arr fulls ∧ short = .arr shorts ∧ List.Forall₂ item.Allows fulls shorts
  self _ := .inl rfl
  eq_null := by
    rintro _ (same | ⟨_, _, _, null, _⟩)
    · exact same
    · cases null
  depth_le := by
    rintro _ _ (rfl | ⟨_, _, rfl, rfl, each⟩)
    · exact Nat.le_refl _
    · exact Nat.succ_le_succ (depthOfItems_le each)

/-- Each member is kept, in a form that the rule for its name allows, or left out because it is among
the defaults. -/
inductive Members (defaults : List (String × Json)) (member : String → Abbreviation) :
    List (String × Json) → List (String × Json) → Prop
  | nil : Members defaults member [] []
  | keep {name : String} {full short : Json} {fulls kept : List (String × Json)}
      (allowed : (member name).Allows full short) (rest : Members defaults member fulls kept) :
      Members defaults member ((name, full) :: fulls) ((name, short) :: kept)
  | drop {name : String} {full : Json} {fulls kept : List (String × Json)}
      (default : (name, full) ∈ defaults) (rest : Members defaults member fulls kept) :
      Members defaults member ((name, full) :: fulls) kept

namespace Members
variable {defaults : List (String × Json)} {member : String → Abbreviation}
  {fulls kept shorts : List (String × Json)} {name : String} {full : Json}

theorem self (fulls : List (String × Json)) : Members defaults member fulls fulls := by
  induction fulls with
  | nil => exact .nil
  | cons entry rest ih => exact .keep ((member entry.1).self _) ih

theorem depthOfMembers_le (members : Members defaults member fulls kept) :
    Json.depthOfMembers kept ≤ Json.depthOfMembers fulls := by
  induction members with
  | nil => exact Nat.le_refl _
  | keep allowed _ ih =>
    have shallow := (member _).depth_le allowed
    simp only [Json.depthOfMembers]
    omega
  | drop _ _ ih => exact Nat.le_trans ih (Nat.le_max_right ..)

theorem names_sublist (members : Members defaults member fulls kept) :
    (kept.map (·.1)).Sublist (fulls.map (·.1)) := by
  induction members with
  | nil => exact .slnil
  | keep _ _ ih => exact ih.cons_cons _
  | drop _ _ ih => exact ih.cons _

/-- A member whose name stands once is kept or left out. -/
theorem kept_or_omitted (members : Members defaults member fulls kept)
    (distinct : (fulls.map (·.1)).Nodup) (here : (name, full) ∈ fulls) :
    (∃ short, (name, short) ∈ kept ∧ (member name).Allows full short) ∨
      (name, full) ∈ defaults ∧ name ∉ kept.map (·.1) := by
  induction members with
  | nil => cases here
  | @keep first _ short _ _ allowed rest ih =>
    obtain ⟨fresh, distinct⟩ := List.nodup_cons.mp distinct
    rcases List.mem_cons.mp here with same | later
    · cases same
      exact .inl ⟨short, List.mem_cons_self, allowed⟩
    · refine (ih distinct later).imp ?_ ?_
      · exact fun ⟨short, here, allowed⟩ => ⟨short, List.mem_cons_of_mem _ here, allowed⟩
      · rintro ⟨default, absent⟩
        refine ⟨default, fun found => ?_⟩
        rcases List.mem_cons.mp found with rfl | found
        · exact fresh (List.mem_map.mpr ⟨_, later, rfl⟩)
        · exact absent found
  | @drop first _ _ _ default rest ih =>
    obtain ⟨fresh, distinct⟩ := List.nodup_cons.mp distinct
    rcases List.mem_cons.mp here with same | later
    · cases same
      exact .inr ⟨default, fun found => fresh (rest.names_sublist.subset found)⟩
    · exact ih distinct later

/-- Where nothing has a default, every member is kept. -/
theorem forall₂ (members : Members [] member fulls kept) :
    List.Forall₂ (fun full short => full.1 = short.1 ∧ (member full.1).Allows full.2 short.2)
      fulls kept := by
  induction members with
  | nil => exact .nil
  | keep allowed _ ih => exact .cons ⟨rfl, allowed⟩ ih
  | drop default => cases default

end Members

/-- The members of a record, in any order. -/
def record (defaults : List (String × Json)) (member : String → Abbreviation) : Abbreviation where
  Allows full short := full = short ∨ ∃ fulls kept shorts, full = .obj fulls ∧
    short = .obj shorts ∧ Members defaults member fulls kept ∧ kept.Perm shorts
  self _ := .inl rfl
  eq_null := by
    rintro _ (same | ⟨_, _, _, _, null, _⟩)
    · exact same
    · cases null
  depth_le := by
    rintro _ _ (rfl | ⟨_, kept, _, rfl, rfl, members, perm⟩)
    · exact Nat.le_refl _
    · refine Nat.succ_le_succ (Nat.le_trans ?_ members.depthOfMembers_le)
      exact Json.depthOfMembers_le_iff.mpr fun entry short =>
        Json.depthOfMembers_le_iff.mp (Nat.le_refl _) entry (perm.mem_iff.mpr short)

/-- The values of a map; its names are not those of a record, so none has a default. -/
def map (value : Abbreviation) : Abbreviation := record [] fun _ => value

def location : Abbreviation := record [] fun _ => exact

def field : Abbreviation :=
  record [("isList", .bool false), ("isReference", .bool false), ("isRelation", .bool false)] fun
    | "location" => location
    | _ => exact

/-- An enum value given by an object. -/
def detailedValue : Abbreviation :=
  record [] fun
    | "location" => location
    | _ => exact

/-- An enum value; one that has nothing but its literal may be given as that literal. -/
def enumValue : Abbreviation where
  Allows full short := detailedValue.Allows full short ∨
    ∃ value, full = .obj [("value", .str value)] ∧ short = .str value
  self json := .inl (detailedValue.self json)
  eq_null := by
    rintro _ (allowed | ⟨_, _, null⟩)
    · exact detailedValue.eq_null allowed
    · cases null
  depth_le := by
    rintro _ _ (allowed | ⟨_, _, rfl⟩)
    · exact detailedValue.depth_le allowed
    · exact Nat.zero_le _

/-- What types of one kind or another may leave out. -/
def typeDefaults : List (String × Json) :=
  [("namespacePath", .arr []), ("fields", .arr []), ("values", .arr [])]

def typeMember : String → Abbreviation
  | "fields" => list field
  | "values" => list enumValue
  | "location" => location
  | _ => exact

/-- A type of any kind. -/
def type : Abbreviation := record typeDefaults typeMember

def permission : Abbreviation := record [("roles", .arr [])] fun _ => exact

def profile : Abbreviation :=
  record [("permissions", .arr [])] fun
    | "permissions" => list permission
    | "location" => location
    | _ => exact

def labels : Abbreviation := record [] fun _ => exact

def typeLabels : Abbreviation :=
  record [("fields", .obj []), ("values", .obj [])] fun
    | "fields" => map labels
    | "values" => map labels
    | _ => exact

def bundle : Abbreviation :=
  record [("types", .obj [])] fun
    | "types" => map typeLabels
    | "location" => location
    | _ => exact

/-- The declarations of a model. -/
def declarations : Abbreviation :=
  record [("types", .arr []), ("permissionProfiles", .obj []), ("localizations", .arr [])] fun
    | "types" => list type
    | "permissionProfiles" => map profile
    | "localizations" => list bundle
    | _ => exact

variable {item : Abbreviation} {defaults : List (String × Json)} {member : String → Abbreviation}
  {short : Json}

theorem allows_arr {fulls shorts : List Json} (each : List.Forall₂ item.Allows fulls shorts) :
    (list item).Allows (.arr fulls) (.arr shorts) :=
  .inr ⟨fulls, shorts, rfl, rfl, each⟩

theorem allows_obj {fulls kept shorts : List (String × Json)}
    (members : Members defaults member fulls kept) (perm : kept.Perm shorts) :
    (record defaults member).Allows (.obj fulls) (.obj shorts) :=
  .inr ⟨fulls, kept, shorts, rfl, rfl, members, perm⟩

theorem list_allows {fulls : List Json} (allowed : (list item).Allows (.arr fulls) short) :
    ∃ shorts, short = .arr shorts ∧ List.Forall₂ item.Allows fulls shorts := by
  obtain rfl | ⟨_, shorts, same, rfl, each⟩ := allowed
  · exact ⟨fulls, rfl, List.forall₂_same.mpr fun json _ => item.self json⟩
  · cases same
    exact ⟨shorts, rfl, each⟩

theorem record_allows {fulls : List (String × Json)}
    (allowed : (record defaults member).Allows (.obj fulls) short) :
    ∃ kept shorts, short = .obj shorts ∧ Members defaults member fulls kept ∧ kept.Perm shorts := by
  obtain rfl | ⟨_, kept, shorts, same, rfl, members, perm⟩ := allowed
  · exact ⟨fulls, fulls, rfl, .self fulls, .refl fulls⟩
  · cases same
    exact ⟨kept, shorts, rfl, members, perm⟩

end Abbreviation

namespace Decoder
variable {α : Type} {decode : Decoder α} {write : α → Json}

/-- Whatever may stand for a written value is read as that value. -/
def Undoes (decode : Decoder α) (form : Abbreviation) (write : α → Json) : Prop :=
  ∀ ⦃value short⦄, form.Allows (write value) short → decode.Reads short value

theorem undoes_exact (reads : ∀ value, decode.Reads (write value) value) :
    decode.Undoes .exact write := by
  rintro value _ rfl
  exact reads value

/-- What was written is itself among what may stand for it. -/
theorem Undoes.exact {form : Abbreviation} (undoes : decode.Undoes form write) :
    decode.Undoes .exact write :=
  undoes_exact fun value => undoes (form.self (write value))

theorem undoes_nullable (undoes : decode.Undoes .exact write)
    (notNull : ∀ value, write value ≠ .null) :
    (nullable decode).Undoes .exact (Json.nullable write) := by
  refine undoes_exact fun value => ?_
  cases value with
  | none => exact fun _ => rfl
  | some value => exact reads_nullable (notNull value) (undoes rfl)

theorem undoes_list {item : Abbreviation} (undoes : decode.Undoes item write) :
    (list decode).Undoes (.list item) (Json.list write) := by
  intro values short allowed
  obtain ⟨shorts, rfl, each⟩ := Abbreviation.list_allows allowed
  have reads := (List.forall₂_map_left_iff.mp each).imp fun value short allowed => undoes allowed
  exact reads_list reads.flip

theorem undoes_dictionary {form : Abbreviation} (undoes : decode.Undoes form write) :
    (dictionary decode).Undoes (.map form) (Dictionary.toJson write) := by
  intro result short allowed
  obtain ⟨kept, shorts, rfl, members, perm⟩ := Abbreviation.record_allows allowed
  have each := (List.forall₂_map_left_iff.mp members.forall₂).flip
  have reads : List.Forall₂ (fun member entry => member.1 = entry.1 ∧
      decode.Reads member.2 entry.2) kept result.entries :=
    each.imp fun _ _ pair => ⟨pair.1.symm, undoes pair.2⟩
  obtain ⟨entries, reads, perm⟩ := List.perm_comp_forall₂ perm.symm reads
  exact reads_dictionary reads perm

end Decoder

/-- The members that have a value. -/
def Json.present (parts : List (String × Option Json)) : List (String × Json) :=
  parts.filterMap fun part => part.2.map (part.1, ·)

namespace Json
variable {α : Type} {parts : List (String × Option Json)} {name : String} {json : Json}

@[simp] theorem present_nil : present [] = [] := rfl

@[simp] theorem present_some : present ((name, some json) :: parts) = (name, json) :: present parts :=
  rfl

@[simp] theorem present_map (write : α → Json) (value : Option α) :
    present ((name, value.map write) :: parts) = optional name write value ++ present parts := by
  cases value <;> rfl

theorem mem_present_iff : (name, json) ∈ present parts ↔ (name, some json) ∈ parts := by
  simp [present, Option.map_eq_some_iff]

theorem present_names_sublist (parts : List (String × Option Json)) :
    ((present parts).map (·.1)).Sublist (parts.map (·.1)) := by
  induction parts with
  | nil => exact .slnil
  | cons part rest ih =>
    obtain ⟨name, json | json⟩ := part
    · exact ih.cons _
    · exact ih.cons_cons _

theorem depth_list_le {write : α → Json} {items : List α} {n : Nat}
    (each : ∀ item ∈ items, (write item).depth ≤ n) : (list write items).depth ≤ n + 1 := by
  refine Nat.succ_le_succ (depthOfItems_le_iff.mpr fun json member => ?_)
  obtain ⟨item, here, rfl⟩ := List.mem_map.mp member
  exact each item here

theorem depthOfMembers_present_le_iff {n : Nat} :
    depthOfMembers (present parts) ≤ n ↔ ∀ part ∈ parts, ∀ full ∈ part.2, full.depth ≤ n := by
  rw [depthOfMembers_le_iff]
  constructor
  · exact fun shallow part here full value => shallow (part.1, full)
      (mem_present_iff.mpr (Option.mem_def.mp value ▸ here))
  · exact fun shallow entry here => shallow _ (mem_present_iff.mp here) _ rfl

end Json

/-- What is left of a record with the parts: its members have distinct names, a part that has a value
is kept or left out, and one that has none is not there. -/
structure Abbreviated (defaults : List (String × Json)) (member : String → Abbreviation)
    (parts : List (String × Option Json)) (shorts : List (String × Json)) : Prop where
  distinct : (shorts.map (·.1)).Nodup
  shown {name : String} {full : Json} : (name, some full) ∈ parts →
    (∃ short, (name, short) ∈ shorts ∧ (member name).Allows full short) ∨
      (name, full) ∈ defaults ∧ name ∉ shorts.map (·.1)
  hidden {name : String} : (name, none) ∈ parts → name ∉ shorts.map (·.1)

namespace Abbreviated
variable {α : Type} {defaults : List (String × Json)}
  {member : String → Abbreviation} {parts : List (String × Option Json)}
  {shorts : List (String × Json)} {short : Json}

/-- Whatever a record may leave out and however it orders the rest, its parts are told apart by their
names. -/
theorem of_allows (distinct : (parts.map (·.1)).Nodup)
    (allowed : (Abbreviation.record defaults member).Allows (.obj (Json.present parts)) short) :
    ∃ shorts, short = .obj shorts ∧ Abbreviated defaults member parts shorts := by
  obtain ⟨kept, shorts, rfl, members, perm⟩ := Abbreviation.record_allows allowed
  have presentNames := Json.present_names_sublist parts
  have keptNames := members.names_sublist
  have names := perm.map (·.1)
  refine ⟨shorts, rfl, ?_, fun here => ?_, fun here found => ?_⟩
  · exact names.nodup_iff.mp (distinct.sublist (keptNames.trans presentNames))
  · simpa only [perm.mem_iff, names.mem_iff] using members.kept_or_omitted
      (distinct.sublist presentNames) (Json.mem_present_iff.mpr here)
  · obtain ⟨entry, shown, same⟩ :=
      List.mem_map.mp (keptNames.subset (names.mem_iff.mpr found))
    have twice := List.inj_on_of_nodup_map distinct here (Json.mem_present_iff.mp shown) same.symm
    cases twice

/-- A record without one of its parts, as another record with the rest of them reads it. -/
theorem drop {tag : String} {rest : List (String × Option Json)} (within : rest ⊆ parts)
    (fresh : tag ∉ rest.map (·.1)) (fields : Abbreviated defaults member parts shorts) :
    Abbreviated defaults member rest (shorts.filter (·.1 ≠ tag)) where
  distinct := fields.distinct.sublist (List.filter_sublist.map _)
  shown {name _} here := by
    have apart : name ≠ tag := key_ne_of_fresh fresh here
    refine (fields.shown (within here)).imp ?_ ?_
    · rintro ⟨short, kept, allowed⟩
      exact ⟨short, List.mem_filter.mpr ⟨kept, by simpa using apart⟩, allowed⟩
    · rintro ⟨default, absent⟩
      exact ⟨default, fun found => absent ((List.filter_sublist.map _).subset found)⟩
  hidden here found := fields.hidden (within here) ((List.filter_sublist.map _).subset found)

variable {name : String} {decode : Decoder α} {write : α → Json} {missing : Layout → Option α}
  {value : α}

/-- A field is read from the member that was kept, or restored where it was left out. -/
theorem field (fields : Abbreviated defaults member parts shorts)
    (undoes : decode.Undoes (member name) write) (here : (name, some (write value)) ∈ parts)
    (restored : (name, write value) ∈ defaults → missing .named = some value) :
    (Record.field name decode missing).Yields shorts value := by
  intro _ dialect
  obtain ⟨short, kept, allowed⟩ | ⟨default, absent⟩ := fields.shown here
  · exact ⟨some value, .field_present fields.distinct kept (undoes allowed), rfl⟩
  · exact ⟨none, .field_absent absent none, by simp [Record.field, restored default]⟩

theorem required (fields : Abbreviated defaults member parts shorts) (name : String) (value : α)
    (undoes : decode.Undoes (member name) write) (here : (name, some (write value)) ∈ parts)
    (fixed : name ∉ defaults.map (·.1)) : (Record.required name decode).Yields shorts value :=
  fields.field undoes here fun default => absurd (List.mem_map_of_mem default) fixed

theorem defaulted (fields : Abbreviated defaults member parts shorts) (name : String)
    (value default : α) (undoes : decode.Undoes (member name) write)
    (here : (name, some (write value)) ∈ parts)
    (restored : (name, write value) ∈ defaults → value = default) :
    (Record.defaulted name decode default).Yields shorts value :=
  fields.field undoes here fun omitted => congrArg some (restored omitted).symm

theorem optional (fields : Abbreviated defaults member parts shorts) (name : String)
    (value : Option α) (undoes : decode.Undoes (member name) write)
    (here : (name, value.map write) ∈ parts) (fixed : name ∉ defaults.map (·.1))
    (notNull : ∀ value, write value ≠ .null) :
    (Record.optional name decode).Yields shorts value := by
  intro _ dialect
  cases value with
  | none => exact ⟨none, .field_absent (fields.hidden here) none, rfl⟩
  | some value =>
    obtain ⟨short, kept, allowed⟩ | ⟨default, _⟩ := fields.shown here
    · have present : short ≠ .null := fun null =>
        notNull value ((member name).eq_null (null ▸ allowed))
      have reads := Decoder.reads_nullable present (undoes allowed)
      exact ⟨some (some value), .field_present fields.distinct kept reads, rfl⟩
    · exact absurd (List.mem_map_of_mem default) fixed

/-- A tagged object is read back when the decoder of its tag reads what there is beside the tag. -/
theorem reads_tagged {union : Union α} {name : String} {rest : List (String × Option Json)} {n : Nat}
    {value : α} {chosen : Decoder α}
    (allowed : (Abbreviation.record defaults member).Allows
      (.obj (Json.present ((union.tag, some (.str name)) :: rest))) short)
    (distinct : (union.tag :: rest.map (·.1)).Nodup) (exact : member union.tag = .exact)
    (fixed : union.tag ∉ defaults.map (·.1)) (shallow : Json.depthOfMembers (Json.present rest) ≤ n)
    (room : union.depth + n ≤ 127) (picked : Decoder.pick union.variants name = pure chosen)
    (reads : ∀ shorts, Abbreviated defaults member rest shorts → chosen.Reads (.obj shorts) value) :
    union.decode.Reads short value := by
  have fits := (Abbreviation.record defaults member).depth_le allowed
  have names : (((union.tag, some (Json.str name)) :: rest).map (·.1)).Nodup := distinct
  obtain ⟨shorts, rfl, fields⟩ := of_allows names allowed
  -- the tag has no default, so it is there, though perhaps not in the first place
  have tagged : (union.tag, .str name) ∈ shorts := by
    obtain ⟨tag, here, same⟩ | ⟨default, _⟩ := fields.shown List.mem_cons_self
    · rw [exact] at same
      cases same
      exact here
    · exact absurd (List.mem_map_of_mem default) fixed
  have low : Json.depthOfMembers shorts ≤ n := by
    refine Nat.le_trans (Nat.le_of_succ_le_succ fits) ?_
    simpa [Json.depthOfMembers, Json.depth] using shallow
  have within (dialect : Dialect) :
      Json.depthOfMembers shorts ≤ dialect.depthLimit - union.depth := by
    cases dialect <;> simp only [Dialect.depthLimit] <;> omega
  obtain ⟨fresh, _⟩ := List.nodup_cons.mp distinct
  exact Union.reads tagged fields.distinct within picked
    (reads _ (fields.drop (List.subset_cons_self ..) fresh))

end Abbreviated
end TypeGraph
