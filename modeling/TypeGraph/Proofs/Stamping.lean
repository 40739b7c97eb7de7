import TypeGraph.Proofs.Merging
import TypeGraph.Proofs.StampedPointers
import TypeGraph.Source

/-! Stamping fills in the locations that are missing and nothing else, so once is enough. Merged
sources keep what each was stamped with: a declaration moves to another place among those of all
sources, but its location is still the one that it has in its own. -/
namespace TypeGraph

/-! The same declarations without the places that they were read from. -/

def FieldDecl.withoutLocation (field : FieldDecl) : FieldDecl := { field with location := none }

def EnumValueDecl.withoutLocation (value : EnumValueDecl) : EnumValueDecl :=
  { value with location := none }

def ProfileDecl.withoutLocation (profile : ProfileDecl) : ProfileDecl :=
  { profile with location := none }

def Bundle.withoutLocation (bundle : Bundle) : Bundle := { bundle with location := none }

def TypeDecl.withoutLocations : TypeDecl → TypeDecl
  | object kind decl =>
    .object kind { decl with fields := decl.fields.map .withoutLocation, location := none }
  | enum decl => .enum { decl with values := decl.values.map .withoutLocation, location := none }
  | scalar decl => .scalar { decl with location := none }

def Declarations.withoutLocations (declarations : Declarations) : Declarations where
  types := declarations.types.map .withoutLocations
  profiles := declarations.profiles.mapEntries fun _ profile => profile.withoutLocation
  bundles := declarations.bundles.map .withoutLocation

section Positions
variable {Item Result : Type} {items : List Item} {change : Nat → Item → Item}

/-- What does not see a change at any position sees the same list. -/
theorem map_mapIdx_of_blind {view : Item → Result}
    (blind : ∀ index item, view (change index item) = view item) :
    (items.mapIdx change).map view = items.map view := by
  refine List.ext_getElem? fun index => ?_
  rw [List.getElem?_map, List.getElem?_mapIdx, List.getElem?_map]
  cases items[index]? <;> simp [blind]

/-- A list of which no item is changed stays as it is. -/
theorem mapIdx_eq_self (fixed : ∀ index, ∀ item ∈ items, change index item = item) :
    items.mapIdx change = items := by
  refine List.ext_getElem? fun index => ?_
  rw [List.getElem?_mapIdx]
  cases present : items[index]? with
  | none => rfl
  | some item => rw [Option.map_some, fixed index item (List.mem_of_getElem? present)]

/-- An item of two lists one after the other is at its place in one of them. -/
theorem getElem?_append_cases {later : List Item} {index : Nat} {item : Item}
    (present : (items ++ later)[index]? = some item) :
    items[index]? = some item ∨
      ∃ own, index = items.length + own ∧ later[own]? = some item := by
  rcases Nat.lt_or_ge index items.length with inside | outside
  · rw [List.getElem?_append_left inside] at present
    exact .inl present
  · rw [List.getElem?_append_right outside] at present
    exact .inr ⟨index - items.length, by omega, present⟩

end Positions

namespace SourceLocation

variable {location : Option SourceLocation} {source : String} {pointer : Pointer}

theorem orPointer_ne_none : orPointer location source pointer ≠ none := by simp [orPointer]

theorem orPointer_of_located (located : location ≠ none) :
    orPointer location source pointer = location := by
  obtain ⟨place, rfl⟩ := Option.ne_none_iff_exists'.mp located
  rfl

end SourceLocation

open SourceLocation (orPointer_ne_none orPointer_of_located)

namespace TypeDecl

variable {decl : TypeDecl} {source : String} {pointer : Pointer}

theorem withoutLocations_stamp : (decl.stamp source pointer).withoutLocations = decl.withoutLocations := by
  cases decl with
  | object kind decl =>
    simp only [stamp, withoutLocations]
    rw [map_mapIdx_of_blind]
    exact fun _ _ => rfl
  | enum decl =>
    simp only [stamp, withoutLocations]
    rw [map_mapIdx_of_blind]
    exact fun _ _ => rfl
  | scalar decl => rfl

theorem located_of_mem_fields_stamp {field : FieldDecl}
    (member : field ∈ (decl.stamp source pointer).fields) : field.location ≠ none := by
  cases decl with
  | object kind decl =>
    obtain ⟨index, inside, rfl⟩ := List.mem_mapIdx.mp member
    exact orPointer_ne_none
  | enum | scalar => cases member

theorem located_of_mem_values_stamp {value : EnumValueDecl}
    (member : value ∈ (decl.stamp source pointer).values) : value.location ≠ none := by
  cases decl with
  | enum decl =>
    obtain ⟨index, inside, rfl⟩ := List.mem_mapIdx.mp member
    exact orPointer_ne_none
  | object | scalar => cases member

theorem stamp_eq_self (located : decl.location ≠ none)
    (fields : ∀ field ∈ decl.fields, field.location ≠ none)
    (values : ∀ value ∈ decl.values, value.location ≠ none) : decl.stamp source pointer = decl := by
  cases decl with
  | object kind decl =>
    have own : decl.location ≠ none := located
    rw [stamp, mapIdx_eq_self, orPointer_of_located own]
    intro index field member
    rw [orPointer_of_located (fields field member)]
  | enum decl =>
    have own : decl.location ≠ none := located
    rw [stamp, mapIdx_eq_self, orPointer_of_located own]
    intro index value member
    rw [orPointer_of_located (values value member)]
  | scalar decl =>
    have own : decl.location ≠ none := located
    rw [stamp, orPointer_of_located own]

end TypeDecl

namespace Declarations

variable {declarations first second : Declarations} {sources : List Declarations} {source : String}

/-- Every declaration has a location. -/
structure Located (declarations : Declarations) : Prop where
  types : ∀ decl ∈ declarations.types, decl.location ≠ none
  fields : ∀ decl ∈ declarations.types, ∀ field ∈ decl.fields, field.location ≠ none
  values : ∀ decl ∈ declarations.types, ∀ value ∈ decl.values, value.location ≠ none
  profiles : ∀ name profile, declarations.profiles.get? name = some profile → profile.location ≠ none
  bundles : ∀ bundle ∈ declarations.bundles, bundle.location ≠ none

theorem located_stamp (declarations : Declarations) (source : String) :
    (declarations.stamp source).Located := by
  constructor
  case types =>
    intro decl member
    obtain ⟨index, inside, rfl⟩ := List.mem_mapIdx.mp member
    rw [TypeDecl.location_stamp]
    exact orPointer_ne_none
  case fields =>
    intro decl member field declared
    obtain ⟨index, inside, rfl⟩ := List.mem_mapIdx.mp member
    exact TypeDecl.located_of_mem_fields_stamp declared
  case values =>
    intro decl member value declared
    obtain ⟨index, inside, rfl⟩ := List.mem_mapIdx.mp member
    exact TypeDecl.located_of_mem_values_stamp declared
  case profiles =>
    intro name profile bound
    rw [stamp, Dictionary.get?_mapEntries, Option.map_eq_some_iff] at bound
    obtain ⟨before, _, rfl⟩ := bound
    exact orPointer_ne_none
  case bundles =>
    intro bundle member
    obtain ⟨index, inside, rfl⟩ := List.mem_mapIdx.mp member
    exact orPointer_ne_none

/-- Where nothing is missing there is nothing to fill in. -/
theorem Located.stamp_eq (located : declarations.Located) (source : String) :
    declarations.stamp source = declarations := by
  have types : (declarations.stamp source).types = declarations.types := by
    refine mapIdx_eq_self fun index decl member => ?_
    exact TypeDecl.stamp_eq_self (located.types decl member) (located.fields decl member)
      (located.values decl member)
  have profiles : (declarations.stamp source).profiles = declarations.profiles := by
    refine Dictionary.ext_get? fun name => ?_
    rw [stamp, Dictionary.get?_mapEntries]
    cases bound : declarations.profiles.get? name with
    | none => rfl
    | some profile => rw [Option.map_some, orPointer_of_located (located.profiles name profile bound)]
  have bundles : (declarations.stamp source).bundles = declarations.bundles := by
    refine mapIdx_eq_self fun index bundle member => ?_
    rw [orPointer_of_located (located.bundles bundle member)]
  exact ext_parts types profiles bundles

theorem Located.mergeAll (located : ∀ source ∈ sources, source.Located) :
    (mergeAll sources).Located := by
  have gathers := gathers_mergeAll sources
  constructor
  case types =>
    rw [gathers.types]
    intro decl member
    obtain ⟨source, listed, declared⟩ := List.mem_flatMap.mp member
    exact (located source listed).types decl declared
  case fields =>
    rw [gathers.types]
    intro decl member
    obtain ⟨source, listed, declared⟩ := List.mem_flatMap.mp member
    exact (located source listed).fields decl declared
  case values =>
    rw [gathers.types]
    intro decl member
    obtain ⟨source, listed, declared⟩ := List.mem_flatMap.mp member
    exact (located source listed).values decl declared
  case profiles =>
    intro name profile bound
    rw [gathers.profiles] at bound
    obtain ⟨source, listed, given⟩ := List.mem_filterMap.mp (List.mem_of_getLast? bound)
    exact (located source listed).profiles name profile given
  case bundles =>
    rw [gathers.bundles]
    intro bundle member
    obtain ⟨source, listed, declared⟩ := List.mem_flatMap.mp member
    exact (located source listed).bundles bundle declared

theorem withoutLocations_stamp (declarations : Declarations) (source : String) :
    (declarations.stamp source).withoutLocations = declarations.withoutLocations := by
  have profiles : ((declarations.stamp source).withoutLocations).profiles =
      declarations.withoutLocations.profiles := by
    refine Dictionary.ext_get? fun name => ?_
    simp only [withoutLocations, stamp, Dictionary.get?_mapEntries, Option.map_map]
    rfl
  have types : ((declarations.stamp source).withoutLocations).types =
      declarations.withoutLocations.types :=
    map_mapIdx_of_blind fun _ _ => TypeDecl.withoutLocations_stamp
  have bundles : ((declarations.stamp source).withoutLocations).bundles =
      declarations.withoutLocations.bundles :=
    map_mapIdx_of_blind fun _ _ => rfl
  exact ext_parts types profiles bundles

/-- What stamping makes of declarations: every location is there, those that an author wrote are as
they were, each new one points into the source at its own place, and nothing else is touched. -/
structure FillsIn (stamped declarations : Declarations) (source : String) : Prop where
  located : stamped.Located
  kept : ∀ place entry location, declarations.declared? place = some entry →
    entry.location = some location →
      (stamped.declared? place).map (·.location) = some (some location)
  filled : ∀ place entry, declarations.declared? place = some entry → entry.location = none →
    (stamped.declared? place).map (·.location) = some (some (.ofPointer source place.pointer))
  bare : stamped.withoutLocations = declarations.withoutLocations
  once : ∀ other, stamped.stamp other = stamped

theorem fillsIn_stamp (declarations : Declarations) (source : String) :
    (declarations.stamp source).FillsIn declarations source := by
  constructor
  case located => exact located_stamp declarations source
  case kept =>
    intro place entry location declared written
    rw [declared?_stamp, declared, Option.map_some, written]
    rfl
  case filled =>
    intro place entry declared missing
    rw [declared?_stamp, declared, Option.map_some, missing]
    rfl
  case bare => exact withoutLocations_stamp declarations source
  case once => exact (located_stamp declarations source).stamp_eq

section Files
variable {files : Files} {path : String} {document : Declarations}

/-- The text of a file, in the format that its path tells, is a document of these declarations. -/
def Holds (files : Files) (path : String) (document : Declarations) : Prop :=
  ∃ text, files path = .ok text ∧ ofText (.ofPath path) path text = .ok document

/-- What is loaded from a file is the document that it holds, stamped with the file's path. -/
theorem load_eq_ok_iff : load files path = .ok declarations ↔
    ∃ document, Holds files path document ∧ declarations = document.stamp path := by
  rw [load, TextReader.load]
  constructor
  · intro loaded
    cases readable : files path with
    | error failure => simp [readable, Except.mapError, bind, Except.bind] at loaded
    | ok text =>
      cases parsed : ofText (.ofPath path) path text with
      | error failure => simp [readable, parsed, Except.mapError, bind, Except.bind] at loaded
      | ok document =>
        simp only [readable, parsed, Except.mapError, bind, Except.bind, pure, Except.pure,
          Except.ok.injEq] at loaded
        exact ⟨document, ⟨text, readable, parsed⟩, loaded.symm⟩
  · rintro ⟨document, ⟨text, readable, parsed⟩, rfl⟩
    simp [readable, parsed, Except.mapError, bind, Except.bind, pure, Except.pure]

end Files

end Declarations

namespace Place

variable {first second : Declarations} {place : Place}

/-- The place that a declaration has behind those of an earlier source. Profiles have no position. -/
def behind (earlier : Declarations) : Place → Place
  | type index => type (earlier.types.length + index)
  | field owner index => field (earlier.types.length + owner) index
  | value owner index => value (earlier.types.length + owner) index
  | profile name => profile name
  | bundle index => bundle (earlier.bundles.length + index)

theorem behind_empty : place.behind .empty = place := by
  cases place <;> simp [behind, Declarations.empty]

theorem behind_merge : place.behind (first.merge second) = (place.behind second).behind first := by
  cases place <;> simp [behind, Declarations.merge, Nat.add_assoc]

/-- A later source declares a profile of the same name. Nothing else is ever replaced. -/
def ReplacedBy (later : Declarations) : Place → Prop
  | profile name => name ∈ later.profiles.keys
  | type _ | field _ _ | value _ _ | bundle _ => False

end Place

namespace Declarations

variable {first second : Declarations} {sources : List Declarations} {place : Place} {entry : Entry}

/-- What an earlier source declares stays at its place. -/
theorem declared?_merge_of_earlier (declared : first.declared? place = some entry)
    (unreplaced : ¬place.ReplacedBy second) : (first.merge second).declared? place = some entry := by
  cases place with
  | type index =>
    obtain ⟨decl, kept, rfl⟩ := Option.map_eq_some_iff.mp declared
    have inside := (List.getElem?_eq_some_iff.mp kept).1
    rw [declared?, merge, List.getElem?_append_left inside, kept, Option.map_some]
  | field owner index =>
    obtain ⟨decl, kept, within⟩ := Option.bind_eq_some_iff.mp declared
    have inside := (List.getElem?_eq_some_iff.mp kept).1
    rw [declared?, merge, List.getElem?_append_left inside, kept, Option.bind_some, within]
  | value owner index =>
    obtain ⟨decl, kept, within⟩ := Option.bind_eq_some_iff.mp declared
    have inside := (List.getElem?_eq_some_iff.mp kept).1
    rw [declared?, merge, List.getElem?_append_left inside, kept, Option.bind_some, within]
  | profile name =>
    have absent : second.profiles.get? name = none := Dictionary.get?_eq_none_iff.mpr unreplaced
    rw [declared?, merge, Dictionary.get?_override, absent, Option.none_or]
    exact declared
  | bundle index =>
    obtain ⟨bundle, kept, rfl⟩ := Option.map_eq_some_iff.mp declared
    have inside := (List.getElem?_eq_some_iff.mp kept).1
    rw [declared?, merge, List.getElem?_append_left inside, kept, Option.map_some]

/-- What a later source declares stands behind all that was there. -/
theorem declared?_merge_of_later (declared : second.declared? place = some entry) :
    (first.merge second).declared? (place.behind first) = some entry := by
  cases place with
  | type index | field owner index | value owner index | bundle index =>
    rw [← declared]
    simp [declared?, merge, Place.behind, List.getElem?_append_right]
  | profile name =>
    obtain ⟨profile, bound, rfl⟩ := Option.map_eq_some_iff.mp declared
    rw [Place.behind, declared?, merge, Dictionary.get?_override, bound, Option.some_or,
      Option.map_some]

/-- Whatever two merged sources declare, one of them does. -/
theorem declared?_merge_cases (declared : (first.merge second).declared? place = some entry) :
    first.declared? place = some entry ∧ ¬place.ReplacedBy second ∨
      ∃ own : Place, place = own.behind first ∧ second.declared? own = some entry := by
  cases place with
  | type index =>
    obtain ⟨decl, kept, rfl⟩ := Option.map_eq_some_iff.mp declared
    rcases getElem?_append_cases kept with earlier | ⟨own, rfl, later⟩
    · exact .inl ⟨by rw [declared?, earlier, Option.map_some], id⟩
    · exact .inr ⟨.type own, rfl, by rw [declared?, later, Option.map_some]⟩
  | field owner index =>
    obtain ⟨decl, kept, within⟩ := Option.bind_eq_some_iff.mp declared
    rcases getElem?_append_cases kept with earlier | ⟨own, rfl, later⟩
    · exact .inl ⟨by rw [declared?, earlier, Option.bind_some, within], id⟩
    · exact .inr ⟨.field own index, rfl, by rw [declared?, later, Option.bind_some, within]⟩
  | value owner index =>
    obtain ⟨decl, kept, within⟩ := Option.bind_eq_some_iff.mp declared
    rcases getElem?_append_cases kept with earlier | ⟨own, rfl, later⟩
    · exact .inl ⟨by rw [declared?, earlier, Option.bind_some, within], id⟩
    · exact .inr ⟨.value own index, rfl, by rw [declared?, later, Option.bind_some, within]⟩
  | profile name =>
    rw [declared?, merge, Dictionary.get?_override] at declared
    cases given : second.profiles.get? name with
    | none =>
      rw [given, Option.none_or] at declared
      exact .inl ⟨declared, Dictionary.get?_eq_none_iff.mp given⟩
    | some profile =>
      rw [given, Option.some_or] at declared
      exact .inr ⟨.profile name, rfl, by rw [declared?, given, declared]⟩
  | bundle index =>
    obtain ⟨bundle, kept, rfl⟩ := Option.map_eq_some_iff.mp declared
    rcases getElem?_append_cases kept with earlier | ⟨own, rfl, later⟩
    · exact .inl ⟨by rw [declared?, earlier, Option.map_some], id⟩
    · exact .inr ⟨.bundle own, rfl, by rw [declared?, later, Option.map_some]⟩

/-- Nothing that a later source declares takes the place of this one. -/
def Outlasts (place : Place) (after : List Declarations) : Prop :=
  ∀ later ∈ after, ¬place.ReplacedBy later

theorem replacedBy_mergeAll_iff :
    place.ReplacedBy (mergeAll sources) ↔ ∃ source ∈ sources, place.ReplacedBy source := by
  cases place with
  | profile name => exact mem_keys_mergeAll_iff
  | type | field | value | bundle => simp [Place.ReplacedBy]

/-- Merged declarations are those of the sources, each with the location that it has in its source. A
profile that a later source replaces is gone, everything else only moves behind what comes before. -/
structure Collects (merged : Declarations) (sources : List Declarations) : Prop where
  kept : ∀ before source after, sources = before ++ source :: after →
    ∀ place entry, source.declared? place = some entry → Outlasts place after →
      merged.declared? (place.behind (mergeAll before)) = some entry
  origin : ∀ place entry, merged.declared? place = some entry →
    ∃ before source after own, sources = before ++ source :: after ∧ Outlasts own after ∧
      source.declared? own = some entry ∧ place = own.behind (mergeAll before)

theorem declared?_mergeAll {before after : List Declarations} {source : Declarations}
    (declared : source.declared? place = some entry) (lasts : Outlasts place after) :
    (mergeAll (before ++ source :: after)).declared? (place.behind (mergeAll before)) = some entry := by
  have unreplaced : ¬place.ReplacedBy (mergeAll after) := by
    rw [replacedBy_mergeAll_iff]
    rintro ⟨later, listed, replaced⟩
    exact lasts later listed replaced
  rw [mergeAll_append, mergeAll_cons]
  exact declared?_merge_of_later (declared?_merge_of_earlier declared unreplaced)

theorem exists_origin (declared : (mergeAll sources).declared? place = some entry) :
    ∃ before source after own, sources = before ++ source :: after ∧ Outlasts own after ∧
      source.declared? own = some entry ∧ place = own.behind (mergeAll before) := by
  induction sources generalizing place with
  | nil => cases place <;> simp [mergeAll, declared?, empty, EmptyCollection.emptyCollection] at declared
  | cons source rest ih =>
    rw [mergeAll_cons] at declared
    rcases declared?_merge_cases declared with ⟨here, unreplaced⟩ | ⟨moved, rfl, there⟩
    · refine ⟨[], source, rest, place, rfl, ?_, here, Place.behind_empty.symm⟩
      intro later listed replaced
      exact unreplaced (replacedBy_mergeAll_iff.mpr ⟨later, listed, replaced⟩)
    · obtain ⟨before, origin, after, own, rfl, lasts, given, rfl⟩ := ih there
      refine ⟨source :: before, origin, after, own, rfl, lasts, given, ?_⟩
      rw [mergeAll_cons, Place.behind_merge]

theorem collects_mergeAll (sources : List Declarations) : (mergeAll sources).Collects sources := by
  constructor
  case kept =>
    rintro before source after rfl place entry declared lasts
    exact declared?_mergeAll declared lasts
  case origin =>
    intro place entry declared
    exact exists_origin declared

/-- Stamping fills in missing locations once and for all. Documents that are stamped with their own
names and then merged keep these locations, and there is nothing left to fill in. -/
theorem stamping_keeps_provenance :
    (∀ (declarations : Declarations) (source : String),
      (declarations.stamp source).FillsIn declarations source) ∧
    ∀ documents : List (String × Declarations),
      let stamped := documents.map fun document => document.2.stamp document.1
      (mergeAll stamped).Collects stamped ∧
        ∀ other, (mergeAll stamped).stamp other = mergeAll stamped := by
  refine ⟨fillsIn_stamp, fun documents => ⟨collects_mergeAll _, ?_⟩⟩
  have located : ∀ source ∈ documents.map fun document => document.2.stamp document.1,
      source.Located := by
    intro source listed
    obtain ⟨document, _, rfl⟩ := List.mem_map.mp listed
    exact located_stamp document.2 document.1
  exact (Located.mergeAll located).stamp_eq

/-- Behind the types of another document a type still points to its place in its own. -/
example : (mergeAll [
      stamp "units.json" { types := [.scalar { name := "Money" }, .scalar { name := "Weight" }] },
      stamp "shop.json" { types := [.object .valueObject { name := "Price" }] }]).types.map
        (·.location) = [
      some { source := "units.json", pointer := some "/types/0" },
      some { source := "units.json", pointer := some "/types/1" },
      some { source := "shop.json", pointer := some "/types/0" }] := by
  decide +kernel

end Declarations
end TypeGraph
