import TypeGraph.Declaration.Encode
import TypeGraph.Declaration.Stamp
import TypeGraph.Proofs.Dictionary
import TypeGraph.Proofs.PointerText

/-! Stamped pointers lead back. The pointer that a declaration is stamped with, followed in the JSON
form of all declarations, ends at the JSON form of that declaration, and no two of them share one. -/
namespace TypeGraph

namespace Json

/-- The value of a name among the members of an object; of two members with one name neither counts. -/
def member? (members : List (String × Json)) (name : String) : Option Json :=
  match members.filter (·.1 == name) with
  | [member] => some member.2
  | _ => none

/-- Where a key leads to: the member of that name, or the item at that position. -/
def child? : Json → String → Option Json
  | obj members, key => member? members key
  | arr items, key => (Pointer.index? key).bind fun index => items[index]?
  | _, _ => none

/-- Follow a pointer, key by key. -/
def follow? (json : Json) : Pointer → Option Json
  | [] => some json
  | key :: rest => (json.child? key).bind (follow? · rest)

/-- The value that the text of a pointer refers to. -/
def at? (json : Json) (text : String) : Option Json := (Pointer.ofText? text).bind json.follow?

variable {α : Type} {write : α → Json} {name key : String}

theorem filter_optional (apart : name ≠ key) (value : Option α) :
    (optional name write value).filter (·.1 == key) = [] := by
  cases value <;> simp [optional, apart]

theorem child?_list (items : List α) (index : Nat) :
    (list write items).child? index.repr = items[index]?.map write := by
  rw [list, child?, Pointer.index?_repr, Option.bind_some, List.getElem?_map]

/-- A name leads to what it is bound to. -/
theorem child?_dictionary (dictionary : Dictionary α) :
    (dictionary.toJson write).child? key = (dictionary.get? key).map write := by
  have members : (dictionary.entries.map fun entry => (entry.1, write entry.2)).filter (·.1 == key) =
      (dictionary.entries.filter (·.1 == key)).map fun entry => (entry.1, write entry.2) :=
    List.filter_map
  have first : dictionary.get? key = (dictionary.entries.filter (·.1 == key)).head?.map (·.2) := by
    rw [List.head?_filter, Dictionary.get?]
  have single : (dictionary.entries.filter (·.1 == key)).length ≤ 1 :=
    nodup_map_iff_filter.mp dictionary.nodup_keys key
  rw [Dictionary.toJson, child?, member?, members, first]
  cases matching : dictionary.entries.filter (·.1 == key) with
  | nil => rfl
  | cons entry rest =>
    have alone : rest = [] := by
      rw [matching] at single
      exact List.length_eq_zero_iff.mp (Nat.le_zero.mp (Nat.le_of_succ_le_succ single))
    rw [alone]
    rfl

end Json

/-- Where a declaration stands among all others: types, bundles, fields and values by position,
profiles by name. -/
inductive Place where
  | type (index : Nat)
  | field (owner index : Nat)
  | value (owner index : Nat)
  | profile (name : String)
  | bundle (index : Nat)
  deriving DecidableEq, Repr

/-- A declaration as it is written, with the location that it has. -/
structure Entry where
  location : Option SourceLocation
  json : Json

namespace Place

def pointer : Place → Pointer
  | type index => ["types", toString index]
  | field owner index => ["types", toString owner, "fields", toString index]
  | value owner index => ["types", toString owner, "values", toString index]
  | profile name => ["permissionProfiles", name]
  | bundle index => ["localizations", toString index]

theorem pointer_injective : Function.Injective pointer := by
  have digits {first second : Nat} : first.repr = second.repr ↔ first = second := by
    refine ⟨fun same => ?_, congrArg Nat.repr⟩
    rw [← Option.some.injEq, ← Pointer.index?_repr, same, Pointer.index?_repr]
  intro first second same
  cases first <;> cases second <;> simp_all [pointer]

end Place

namespace TypeDecl

open Json (filter_optional)

theorem child?_fields (decl : TypeDecl) (index : Nat) :
    (decl.toJson.child? "fields").bind (·.child? index.repr) =
      decl.fields[index]?.map FieldDecl.toJson := by
  have child : decl.toJson.child? "fields" =
      decl.object?.map fun object => Json.list FieldDecl.toJson object.fields := by
    cases decl <;>
      simp [toJson, members, ObjectDecl.members, EnumDecl.members, ScalarDecl.members, Json.child?,
        Json.member?, filter_optional, object?]
  cases decl <;> simp [child, fields, object?, Json.child?_list]

theorem child?_values (decl : TypeDecl) (index : Nat) :
    (decl.toJson.child? "values").bind (·.child? index.repr) =
      decl.values[index]?.map EnumValueDecl.toJson := by
  cases decl with
  | enum decl =>
    have child : (enum decl).toJson.child? "values" =
        some (Json.list EnumValueDecl.toJson decl.values) := by
      simp [toJson, members, EnumDecl.members, Json.child?, Json.member?, filter_optional]
    simp [child, values, Json.child?_list]
  | object kind decl =>
    simp [toJson, members, ObjectDecl.members, Json.child?, Json.member?, filter_optional, values]
  | scalar decl =>
    simp [toJson, members, ScalarDecl.members, Json.child?, Json.member?, filter_optional, values]

open SourceLocation (orPointer)

variable {source : String} {pointer : Pointer}

theorem location_stamp (decl : TypeDecl) :
    (decl.stamp source pointer).location = orPointer decl.location source pointer := by
  cases decl <;> rfl

theorem getElem?_fields_stamp (decl : TypeDecl) (index : Nat) :
    (decl.stamp source pointer).fields[index]? = decl.fields[index]?.map fun field =>
      { field with
        location := orPointer field.location source (pointer ++ ["fields", toString index]) } := by
  cases decl with
  | object kind decl => exact List.getElem?_mapIdx
  | enum | scalar => rfl

theorem getElem?_values_stamp (decl : TypeDecl) (index : Nat) :
    (decl.stamp source pointer).values[index]? = decl.values[index]?.map fun value =>
      { value with
        location := orPointer value.location source (pointer ++ ["values", toString index]) } := by
  cases decl with
  | enum decl => exact List.getElem?_mapIdx
  | object | scalar => rfl

end TypeDecl

namespace Declarations

open SourceLocation (orPointer)

variable {declarations : Declarations} {source : String}

/-- What is declared at a place, if anything is. -/
def declared? (declarations : Declarations) : Place → Option Entry
  | .type index => declarations.types[index]?.map fun decl => ⟨decl.location, decl.toJson⟩
  | .field owner index => declarations.types[owner]?.bind fun decl =>
      decl.fields[index]?.map fun field => ⟨field.location, field.toJson⟩
  | .value owner index => declarations.types[owner]?.bind fun decl =>
      decl.values[index]?.map fun value => ⟨value.location, value.toJson⟩
  | .profile name => (declarations.profiles.get? name).map fun profile =>
      ⟨profile.location, profile.toJson⟩
  | .bundle index => declarations.bundles[index]?.map fun bundle =>
      ⟨bundle.location, bundle.toJson⟩

/-- The pointer of a place leads to what is declared there, and nowhere if nothing is. -/
theorem follow?_pointer (declarations : Declarations) (place : Place) :
    declarations.toJson.follow? place.pointer = (declarations.declared? place).map (·.json) := by
  have types : declarations.toJson.child? "types" =
      some (Json.list TypeDecl.toJson declarations.types) := by
    simp [toJson, Json.child?, Json.member?]
  have profiles : declarations.toJson.child? "permissionProfiles" =
      some (declarations.profiles.toJson ProfileDecl.toJson) := by
    simp [toJson, Json.child?, Json.member?]
  have bundles : declarations.toJson.child? "localizations" =
      some (Json.list Bundle.toJson declarations.bundles) := by
    simp [toJson, Json.child?, Json.member?]
  cases place with
  | type index =>
    simp [Place.pointer, Json.follow?, types, Json.child?_list, declared?, Function.comp_def]
  | field owner index =>
    cases kept : declarations.types[owner]? <;>
      simp [Place.pointer, Json.follow?, types, Json.child?_list, declared?, kept,
        TypeDecl.child?_fields, Function.comp_def]
  | value owner index =>
    cases kept : declarations.types[owner]? <;>
      simp [Place.pointer, Json.follow?, types, Json.child?_list, declared?, kept,
        TypeDecl.child?_values, Function.comp_def]
  | profile name =>
    simp [Place.pointer, Json.follow?, profiles, Json.child?_dictionary, declared?,
      Function.comp_def]
  | bundle index =>
    simp [Place.pointer, Json.follow?, bundles, Json.child?_list, declared?, Function.comp_def]

/-- So does the text of that pointer. -/
theorem at?_pointer_text (declarations : Declarations) (place : Place) :
    declarations.toJson.at? place.pointer.text = (declarations.declared? place).map (·.json) := by
  rw [Json.at?, Pointer.ofText?_text, Option.bind_some, follow?_pointer]

/-- Wherever something is declared, stamping leaves its location or points to that place. -/
theorem declared?_stamp (declarations : Declarations) (source : String) (place : Place) :
    ((declarations.stamp source).declared? place).map (·.location) =
      (declarations.declared? place).map fun entry =>
        orPointer entry.location source place.pointer := by
  cases place with
  | type index =>
    simp [declared?, stamp, TypeDecl.location_stamp, Place.pointer, Function.comp_def]
  | field owner index =>
    cases kept : declarations.types[owner]? <;>
      simp [declared?, stamp, kept, TypeDecl.getElem?_fields_stamp, Place.pointer, Function.comp_def]
  | value owner index =>
    cases kept : declarations.types[owner]? <;>
      simp [declared?, stamp, kept, TypeDecl.getElem?_values_stamp, Place.pointer, Function.comp_def]
  | profile name =>
    simp [declared?, stamp, Dictionary.get?_mapEntries, Place.pointer, Function.comp_def]
  | bundle index =>
    simp [declared?, stamp, Place.pointer, Function.comp_def]

/-- No declaration has a location. -/
structure Unlocated (declarations : Declarations) : Prop where
  types : ∀ decl ∈ declarations.types, decl.location = none
  fields : ∀ decl ∈ declarations.types, ∀ field ∈ decl.fields, field.location = none
  values : ∀ decl ∈ declarations.types, ∀ value ∈ decl.values, value.location = none
  profiles : ∀ entry ∈ declarations.profiles.entries, entry.2.location = none
  bundles : ∀ bundle ∈ declarations.bundles, bundle.location = none

theorem Unlocated.location_eq_none (bare : declarations.Unlocated) {place : Place} {entry : Entry}
    (declared : declarations.declared? place = some entry) : entry.location = none := by
  cases place with
  | type index =>
    obtain ⟨decl, kept, rfl⟩ := Option.map_eq_some_iff.mp declared
    exact bare.types decl (List.mem_of_getElem? kept)
  | field owner index =>
    obtain ⟨decl, kept, inside⟩ := Option.bind_eq_some_iff.mp declared
    obtain ⟨field, within, rfl⟩ := Option.map_eq_some_iff.mp inside
    exact bare.fields decl (List.mem_of_getElem? kept) field (List.mem_of_getElem? within)
  | value owner index =>
    obtain ⟨decl, kept, inside⟩ := Option.bind_eq_some_iff.mp declared
    obtain ⟨value, within, rfl⟩ := Option.map_eq_some_iff.mp inside
    exact bare.values decl (List.mem_of_getElem? kept) value (List.mem_of_getElem? within)
  | profile name =>
    obtain ⟨profile, bound, rfl⟩ := Option.map_eq_some_iff.mp declared
    exact bare.profiles (name, profile) (Dictionary.get?_eq_some_iff.mp bound)
  | bundle index =>
    obtain ⟨bundle, kept, rfl⟩ := Option.map_eq_some_iff.mp declared
    exact bare.bundles bundle (List.mem_of_getElem? kept)

/-- Every declaration has a pointer into `source` that leads to it, and no two of them share one. -/
structure Traceable (declarations : Declarations) (source : String) : Prop where
  leads : ∀ place entry, declarations.declared? place = some entry →
    ∃ pointer, entry.location = some { source, pointer := some pointer } ∧
      declarations.toJson.at? pointer = some entry.json
  apart : ∀ place other entry rival, declarations.declared? place = some entry →
    declarations.declared? other = some rival → place ≠ other →
    entry.location.bind (·.pointer) ≠ rival.location.bind (·.pointer)

/-- What had no location is at its place in the document. -/
theorem Unlocated.location_stamp (bare : declarations.Unlocated) {place : Place} {entry : Entry}
    (declared : (declarations.stamp source).declared? place = some entry) :
    entry.location = some (.ofPointer source place.pointer) := by
  have located := declarations.declared?_stamp source place
  rw [declared, Option.map_some, eq_comm, Option.map_eq_some_iff] at located
  obtain ⟨before, declared, located⟩ := located
  rw [← located, bare.location_eq_none declared]
  rfl

/-- Stamping leaves every declaration at its place, and its pointer leads there both in the stamped
document and in the one that was read. -/
theorem Unlocated.traceable_stamp (bare : declarations.Unlocated) (source : String) :
    (declarations.stamp source).Traceable source ∧
      (∀ place, ((declarations.stamp source).declared? place).isSome =
        (declarations.declared? place).isSome) ∧
      ∀ place entry, (declarations.stamp source).declared? place = some entry →
        (entry.location.bind (·.pointer)).bind declarations.toJson.at? =
          (declarations.declared? place).map (·.json) := by
  refine ⟨⟨?leads, ?apart⟩, ?same, ?before⟩
  case leads =>
    intro place entry declared
    refine ⟨place.pointer.text, bare.location_stamp declared, ?_⟩
    rw [at?_pointer_text, declared, Option.map_some]
  case apart =>
    intro place other entry rival declared rivalDeclared different same
    rw [bare.location_stamp declared, bare.location_stamp rivalDeclared] at same
    have texts : place.pointer.text = other.pointer.text := by
      simpa [SourceLocation.ofPointer] using same
    exact different (Place.pointer_injective (Pointer.text_injective texts))
  case same =>
    intro place
    simpa using congrArg Option.isSome (declarations.declared?_stamp source place)
  case before =>
    intro place entry declared
    rw [bare.location_stamp declared]
    exact declarations.at?_pointer_text place

end Declarations

/-! The names of the profiles look like escapes and like parts of a pointer. -/
namespace Slashed

def order : ObjectDecl where
  name := "Order"
  fields := [{ name := "status", typeName := "Status" }, { name := "lines", typeName := "Line" }]

def status : EnumDecl where
  name := "Status"
  values := [{ value := "OPEN" }, { value := "CLOSED" }]

def declarations : Declarations where
  types := [.object .rootEntity order, .enum status]
  profiles := .ofList [("", {}), ("a/b", {}), ("a~1b", {}), ("~0", {})]
  bundles := [{ language := "en" }]

theorem unlocated : declarations.Unlocated where
  types := by decide
  fields := by decide
  values := by decide
  profiles := by decide
  bundles := by decide

/-- The profiles `a/b` and `a~1b` are found behind different pointers. -/
theorem traceable_declarations : declarations.Unlocated ∧
    (declarations.stamp "shop.json").Traceable "shop.json" ∧
    (((declarations.stamp "shop.json").declared? (.profile "a~1b")).bind (·.location)).bind
      (·.pointer) = some "/permissionProfiles/a~01b" := by
  obtain ⟨traceable, _, _⟩ := unlocated.traceable_stamp "shop.json"
  exact ⟨unlocated, traceable, by decide +kernel⟩

end Slashed
end TypeGraph
