import TypeGraph.TypeDef
import Mathlib.Data.List.Nodup

/-! Lookups by name take the first that fits. Where no name occurs twice, that is the only one, and
a lookup answers exactly what the list holds. -/
namespace TypeGraph

/-- Where keys are distinct, the first item of a key is the only one. -/
theorem find?_key_eq_some_iff {Item Key : Type} [BEq Key] [LawfulBEq Key] {key : Item → Key}
    {items : List Item} (distinct : (items.map key).Nodup) {wanted : Key} {item : Item} :
    items.find? (key · == wanted) = some item ↔ item ∈ items ∧ key item = wanted := by
  constructor
  · intro found
    exact ⟨List.mem_of_find?_eq_some found, by simpa using List.find?_some found⟩
  · intro present
    obtain ⟨member, rfl⟩ := present
    cases found : items.find? (key · == key item) with
    | none => simpa using List.find?_eq_none.mp found item member
    | some other =>
      have same : key other = key item := by simpa using List.find?_some found
      rw [List.inj_on_of_nodup_map distinct (List.mem_of_find?_eq_some found) member same]

/-- No item has a key that is not among the keys. -/
theorem key_ne_of_fresh {Item Key : Type} {key : Item → Key} {items : List Item} {wanted : Key}
    {item : Item} (fresh : wanted ∉ items.map key) (member : item ∈ items) : key item ≠ wanted :=
  fun same => fresh (List.mem_map.mpr ⟨item, member, same⟩)

/-- Without a key that no item has, all items are left. -/
theorem filter_key_ne_of_fresh {Item Key : Type} [DecidableEq Key] {key : Item → Key}
    {items : List Item} {wanted : Key} (fresh : wanted ∉ items.map key) :
    items.filter (key · ≠ wanted) = items := by
  rw [List.filter_eq_self]
  intro item member
  simpa using key_ne_of_fresh fresh member

/-- Keys are distinct exactly when no key has two items. -/
theorem nodup_map_iff_filter {Item Key : Type} [BEq Key] [LawfulBEq Key] {key : Item → Key}
    {items : List Item} :
    (items.map key).Nodup ↔ ∀ wanted, (items.filter (key · == wanted)).length ≤ 1 := by
  simp only [List.nodup_iff_count_le_one, List.count, List.countP_eq_length_filter,
    List.filter_map, List.length_map, Function.comp_def]

theorem length_le_one_iff {Item : Type} {items : List Item} (distinct : items.Nodup) :
    items.length ≤ 1 ↔ ∀ first ∈ items, ∀ second ∈ items, first = second := by
  match items with
  | [] => simp
  | [item] => simp
  | first :: second :: rest =>
    have different : first ≠ second := by
      rintro rfl
      simp at distinct
    constructor
    · intro short
      simp at short
    · intro all
      exact absurd (all first (by simp) second (by simp)) different

variable {types : List TypeDef} {name : String} {type : TypeDef} {object : ObjectType}

@[simp] theorem TypeDef.name_declared (decl : TypeDecl) : (TypeDef.declared decl).name = decl.name :=
  rfl

@[simp] theorem TypeDef.name_builtIn (scalar : BuiltIn) : (TypeDef.builtIn scalar).name = scalar.name :=
  rfl

/-- No two types of the list have a name in common. -/
def UniqueNames (types : List TypeDef) : Prop := (types.map (·.name)).Nodup

/-- What a search along the types finds: the first of a name. -/
def findType? (types : List TypeDef) : Scope := fun name => types.find? (·.name == name)

/-- The first type of a name, if it owns fields. -/
def findObject? (types : List TypeDef) (name : String) : Option ObjectType :=
  (findType? types).object? name

@[simp] theorem object?_findType? : (findType? types).object? name = findObject? types name := rfl

theorem mem_of_findType? (found : findType? types name = some type) :
    type ∈ types ∧ type.name = name :=
  ⟨List.mem_of_find?_eq_some found, by simpa using List.find?_some found⟩

theorem findType?_isSome_iff : (findType? types name).isSome = true ↔ name ∈ types.map (·.name) := by
  simp [findType?, List.find?_isSome]

theorem UniqueNames.findType?_eq_some_iff (unique : UniqueNames types) :
    findType? types name = some type ↔ type ∈ types ∧ type.name = name :=
  find?_key_eq_some_iff unique

theorem object?_eq_some_iff :
    type.object? = some object ↔ type = .declared (.object object.kind object.decl) := by
  constructor
  · intro found
    unfold TypeDef.object? at found
    split at found
    · cases found; rfl
    · cases found
  · rintro rfl
    rfl

/-- The types that own fields, in their order. -/
def objectsOf (types : List TypeDef) : List ObjectType := types.filterMap (·.object?)

theorem mem_objectsOf_iff :
    object ∈ objectsOf types ↔ .declared (.object object.kind object.decl) ∈ types := by
  simp [objectsOf, List.mem_filterMap, object?_eq_some_iff]

theorem mem_of_findObject? (found : findObject? types name = some object) :
    object ∈ objectsOf types ∧ object.name = name := by
  obtain ⟨type, here, owns⟩ := Option.bind_eq_some_iff.mp found
  obtain ⟨member, same⟩ := mem_of_findType? here
  exact ⟨List.mem_filterMap.mpr ⟨type, member, owns⟩, (TypeDef.name_of_object? owns).trans same⟩

theorem UniqueNames.findObject?_eq_some_iff (unique : UniqueNames types) :
    findObject? types name = some object ↔ object ∈ objectsOf types ∧ object.name = name := by
  constructor
  · exact mem_of_findObject?
  · intro present
    obtain ⟨member, rfl⟩ := present
    have here := unique.findType?_eq_some_iff.mpr ⟨mem_objectsOf_iff.mp member, rfl⟩
    exact Option.bind_eq_some_iff.mpr ⟨_, here, rfl⟩

theorem UniqueNames.nodup_objectNames (unique : UniqueNames types) :
    ((objectsOf types).map (·.name)).Nodup := by
  refine List.pairwise_map.mpr (List.pairwise_filterMap.mpr ((List.pairwise_map.mp unique).imp ?_))
  intro first second apart object owns other ownsOther same
  rw [TypeDef.name_of_object? owns, TypeDef.name_of_object? ownsOther] at same
  exact apart same

/-- Object types of one name are one object type. -/
theorem UniqueNames.object_eq (unique : UniqueNames types) {first second : ObjectType}
    (left : first ∈ objectsOf types) (right : second ∈ objectsOf types)
    (same : first.name = second.name) : first = second :=
  List.inj_on_of_nodup_map unique.nodup_objectNames left right same

theorem root?_eq_some_iff :
    type.root? = some object ↔
      type = .declared (.object .rootEntity object.decl) ∧ object.kind = .rootEntity := by
  simp only [TypeDef.root?, Option.filter_eq_some_iff, object?_eq_some_iff, ObjectType.isRoot,
    decide_eq_true_eq]
  constructor
  · intro found
    obtain ⟨rfl, root⟩ := found
    exact ⟨by rw [root], root⟩
  · intro shape
    obtain ⟨rfl, root⟩ := shape
    exact ⟨by rw [root], root⟩

theorem mem_of_field? {field : Field} (found : object.field? name = some field) :
    field ∈ object.fields ∧ field.name = name :=
  ⟨List.mem_of_find?_eq_some found, by simpa using List.find?_some found⟩

/-- No two fields of the type have a name in common, system fields included. -/
def ObjectType.UniqueFields (object : ObjectType) : Prop := (object.fields.map (·.name)).Nodup

theorem ObjectType.UniqueFields.field?_eq_some_iff (unique : object.UniqueFields) {field : Field} :
    object.field? name = some field ↔ field ∈ object.fields ∧ field.name = name :=
  find?_key_eq_some_iff unique

end TypeGraph
