import TypeGraph.Proofs.FieldGroups
import TypeGraph.Proofs.RelationOutline
import TypeGraph.Proofs.Stamping
import TypeGraph.Source
import TypeGraph.Validation

/-! Annotations: locations, descriptions, reasons of deprecation and the texts of labels. Without them
a model is put together and validated as before. What follows from declarations can therefore differ
only where the declarations themselves differ in something else. -/
namespace TypeGraph

/-! The same declarations without annotations. -/

def FieldDecl.bare (field : FieldDecl) : FieldDecl :=
  { field with description := none, location := none }

def EnumValueDecl.bare (value : EnumValueDecl) : EnumValueDecl :=
  { value with description := none, deprecationReason := none, location := none }

def ObjectDecl.bare (decl : ObjectDecl) : ObjectDecl :=
  { decl with description := none, fields := decl.fields.map .bare, location := none }

def EnumDecl.bare (decl : EnumDecl) : EnumDecl :=
  { decl with description := none, values := decl.values.map .bare, location := none }

def TypeDecl.bare : TypeDecl → TypeDecl
  | object kind decl => .object kind decl.bare
  | enum decl => .enum decl.bare
  | scalar decl => .scalar { decl with description := none, location := none }

/-- Without texts, but still with an entry for each field and value. -/
def TypeLabels.bare (labels : TypeLabels) : TypeLabels where
  fields := labels.fields.mapEntries fun _ _ => {}
  values := labels.values.mapEntries fun _ _ => {}

def Bundle.bare (bundle : Bundle) : Bundle :=
  { bundle with types := bundle.types.mapEntries fun _ labels => labels.bare, location := none }

def Declarations.bare (declarations : Declarations) : Declarations where
  types := declarations.types.map .bare
  profiles := declarations.profiles.mapEntries fun _ profile => profile.withoutLocation
  bundles := declarations.bundles.map .bare

/-! The same model without annotations. -/

def Field.bare (field : Field) : Field := { field with decl := field.decl.bare }

def ObjectType.bare (object : ObjectType) : ObjectType := { object with decl := object.decl.bare }

def TypeDef.bare : TypeDef → TypeDef
  | builtIn scalar => .builtIn scalar
  | declared decl => .declared decl.bare

def Diagnostic.bare (diagnostic : Diagnostic) : Diagnostic := { diagnostic with location := none }

def Scope.bare (scope : Scope) : Scope := fun name => (scope name).map .bare

@[simp] theorem TypeDecl.name_bare (decl : TypeDecl) : decl.bare.name = decl.name := by
  cases decl <;> rfl

@[simp] theorem TypeDef.name_bare (type : TypeDef) : type.bare.name = type.name := by
  cases type with
  | builtIn => rfl
  | declared decl => exact decl.name_bare

/-- Names stand where they stood, so the index stays. -/
def Arena.bare (arena : Arena) : Arena where
  types := arena.types.map .bare
  index := arena.index
  inStep := by simpa [Function.comp_def] using arena.inStep

def Registry.bare (registry : Registry) : Registry where
  toArena := registry.toArena.bare
  conflicts := registry.conflicts.map .bare

def Model.bare (model : Model) : Model where
  toArena := model.toArena.bare
  conflicts := model.conflicts.map .bare
  relations := model.relations
  namespaces := model.namespaces
  profiles := model.profiles.mapEntries fun _ profile => profile.withoutLocation
  bundles := model.bundles.map .bare

variable {types : List TypeDef} {scope : Scope} {object : ObjectType} {type : TypeDef} {field : Field}
  {name : String} {profiles : Dictionary ProfileDecl}

namespace Field

/-- Pairing does not see the annotations of a field. -/
theorem unseen_bare : Unseen bare := by
  constructor <;> exact fun _ => rfl

end Field

/-! What is looked up among bare types is bare, and is found under the same name. -/

@[simp] theorem TypeDecl.location_bare (decl : TypeDecl) : decl.bare.location = none := by
  cases decl <;> rfl

/-- Bare declarations have no locations, so none are missed. -/
theorem TypeDecl.bare_withoutLocations (decl : TypeDecl) : decl.withoutLocations.bare = decl.bare := by
  cases decl with
  | object kind decl =>
    simp only [withoutLocations, bare, ObjectDecl.bare, List.map_map]
    rfl
  | enum decl =>
    simp only [withoutLocations, bare, EnumDecl.bare, List.map_map]
    rfl
  | scalar decl => rfl

namespace TypeDef

@[simp] theorem kind_bare : type.bare.kind = type.kind := by
  match type with
  | builtIn _ | declared (.object _ _) | declared (.enum _) | declared (.scalar _) => rfl

@[simp] theorem object?_bare : type.bare.object? = type.object?.map .bare := by
  match type with
  | builtIn _ | declared (.object _ _) | declared (.enum _) | declared (.scalar _) => rfl

@[simp] theorem enum?_bare : type.bare.enum? = type.enum?.map .bare := by
  match type with
  | builtIn _ | declared (.object _ _) | declared (.enum _) | declared (.scalar _) => rfl

@[simp] theorem root?_bare : type.bare.root? = type.root?.map .bare := by
  simp only [root?, object?_bare, Option.filter_map]
  rfl

end TypeDef

@[simp] theorem EnumDecl.value?_bare (decl : EnumDecl) :
    decl.bare.value? name = (decl.value? name).map .bare := by
  rw [value?, bare, List.find?_map]
  rfl

@[simp] theorem Scope.bare_apply : scope.bare name = (scope name).map .bare := rfl

theorem findType?_bare : findType? (types.map .bare) = (findType? types).bare := by
  funext name
  rw [Scope.bare_apply, findType?, List.find?_map]
  simp only [Function.comp_def, TypeDef.name_bare, findType?]

namespace ObjectType

@[simp] theorem fields_bare : object.bare.fields = object.fields.map .bare := by
  have kind : object.bare.kind = object.kind := rfl
  have system : object.bare.systemFields = object.systemFields.map .bare := by
    rw [systemFields, systemFields, kind]
    split <;> rfl
  have user : object.bare.userFields = object.userFields.map .bare := by
    simp only [userFields, bare, ObjectDecl.bare, List.map_map]
    rfl
  rw [fields, system, user, fields, List.map_append]

theorem relationFields_bare : object.bare.relationFields = object.relationFields.map .bare := by
  rw [relationFields, fields_bare, List.filter_map]
  rfl

@[simp] theorem field?_bare : object.bare.field? name = (object.field? name).map .bare := by
  rw [field?, fields_bare, List.find?_map]
  rfl

end ObjectType

@[simp] theorem Finding.bare_locate {location : Option SourceLocation} {findings : List Finding} :
    (locate location findings).map .bare = locate none findings := by
  simp [locate, Diagnostic.bare, Function.comp_def]

/-! Every rule finds the same in what is bare. -/

namespace Validation

theorem enumValues_bare {location : Option SourceLocation} {seen : List String}
    {values : List EnumValueDecl} :
    enumValues none seen (values.map .bare) = (enumValues location seen values).map .bare := by
  induction values generalizing seen with
  | nil => rfl
  | cons value rest ih =>
    -- A duplicate may be told at the place of the enum, which erasure forgets like the value's own.
    have own : value.bare.value = value.value := rfl
    rw [List.map_cons, enumValues, enumValues, ih, own, List.map_append]
    split
    · rfl
    · rw [Finding.bare_locate]
      rfl

theorem enum_bare (decl : EnumDecl) : enum decl.bare = (enum decl).map .bare := by
  have empty : decl.bare.values.isEmpty = decl.values.isEmpty := List.isEmpty_map
  simp only [enum, List.map_append, Finding.bare_locate, empty]
  rw [← enumValues_bare]
  rfl

theorem sameName_bare : sameName object.bare name = (sameName object name).map .bare := by
  have group : object.bare.fields.filter (·.name == name) =
      (object.fields.filter (·.name == name)).map .bare := by
    rw [ObjectType.fields_bare, List.filter_map]
    rfl
  have system : (object.bare.fields.filter (·.name == name)).any (·.isSystem) =
      (object.fields.filter (·.name == name)).any (·.isSystem) := by
    rw [group, List.any_map]
    rfl
  simp only [sameName, system]
  rw [group, List.length_map, List.filter_map, List.map_map]
  split
  · rfl
  · rw [List.map_map]
    rfl

theorem duplicateFields_bare :
    duplicateFields object.bare = (duplicateFields object).map .bare := by
  have names : fieldNames object.bare.fields = fieldNames object.fields := by
    rw [fieldNames, ObjectType.fields_bare, List.map_map]
    rfl
  rw [duplicateFields_eq, duplicateFields_eq, names, List.map_flatMap]
  exact List.flatMap_congr fun name _ => sameName_bare

theorem objectFindings_bare : objectFindings object.bare = objectFindings object := by
  have empty : object.bare.decl.fields.isEmpty = object.decl.fields.isEmpty := List.isEmpty_map
  rw [objectFindings, empty]
  rfl

theorem keyField_bare : keyField scope.bare object.bare name = keyField scope object name := by
  rw [keyField, keyField, ObjectType.field?_bare]
  cases object.field? name with
  | none => rfl
  | some field =>
    have own : field.bare.typeName = field.typeName := rfl
    simp only [Option.map_some, own, Scope.bare_apply]
    cases scope field.typeName with
    | none => rfl
    | some type =>
      simp only [Option.map_some, TypeDef.kind_bare, TypeDef.name_bare]
      rfl

theorem rootFindings_bare :
    rootFindings scope.bare (profiles.mapEntries fun _ profile => profile.withoutLocation)
      object.bare = rootFindings scope profiles object := by
  have key : object.bare.decl.keyFieldName = object.decl.keyFieldName := rfl
  have profile : object.bare.decl.permissionProfile = object.decl.permissionProfile := rfl
  simp only [rootFindings, key, profile, keyField_bare, Dictionary.contains_mapEntries]

theorem namedInverse_bare {target : ObjectType} {inverse : String} :
    namedInverse field.bare target.bare inverse = namedInverse field target inverse := by
  rw [namedInverse, namedInverse, ObjectType.field?_bare]
  cases target.field? inverse <;> rfl

theorem inversesOn_bare {target : ObjectType} :
    field.bare.inversesOn target.bare = (field.inversesOn target).map .bare := by
  rw [Field.inversesOn, ObjectType.fields_bare, List.filter_map]
  rfl

theorem inverses_bare {target : ObjectType} :
    inverses field.bare target.bare = inverses field target := by
  rw [inverses, inversesOn_bare, List.length_map, List.map_map]
  rfl

theorem relation_bare : relation scope.bare field.bare type.bare = relation scope field type := by
  have owner : ((scope.bare field.bare.owner).bind (·.root?)).isNone =
      ((scope field.owner).bind (·.root?)).isNone := by
    rw [Field.unseen_bare.owner, Scope.bare_apply]
    cases scope field.owner <;> simp
  rw [relation, relation, owner, TypeDef.root?_bare, TypeDef.name_bare, Field.unseen_bare.inverseOf]
  cases type.root? with
  | none => rfl
  | some root =>
    simp only [Option.map_some, namedInverse_bare, inverses_bare]

theorem reference_bare : reference type.bare = reference type := by
  rw [reference, reference, TypeDef.root?_bare, TypeDef.name_bare]
  cases type.root? <;> rfl

theorem embedding_bare : embedding field.bare type.bare = embedding field type := by
  rw [embedding, embedding, TypeDef.kind_bare, TypeDef.name_bare]
  rfl

theorem fieldTarget_bare :
    fieldTarget scope.bare field.bare type.bare = fieldTarget scope field type := by
  rw [fieldTarget, relation_bare, reference_bare, embedding_bare]
  rfl

theorem fieldFindings_bare :
    fieldFindings scope.bare field.bare = fieldFindings scope field := by
  have system : field.bare.isSystem = field.isSystem := rfl
  rw [fieldFindings, fieldFindings, system, Field.unseen_bare.typeName, Scope.bare_apply]
  cases scope field.typeName with
  | none => rfl
  | some type =>
    simp only [Option.map_some, fieldTarget_bare]
    rfl

theorem field_bare :
    Validation.field scope.bare field.bare = (Validation.field scope field).map .bare := by
  rw [Validation.field, Validation.field, Finding.bare_locate, fieldFindings_bare]
  rfl

theorem objectType_bare (object : ObjectType) :
    objectType scope.bare (profiles.mapEntries fun _ profile => profile.withoutLocation)
      object.bare = (objectType scope profiles object).map .bare := by
  have fields : object.bare.fields.flatMap (Validation.field scope.bare) =
      (object.fields.flatMap (Validation.field scope)).map .bare := by
    rw [ObjectType.fields_bare, List.flatMap_map, List.map_flatMap]
    exact List.flatMap_congr fun field _ => field_bare
  simp only [objectType, List.map_append, Finding.bare_locate, objectFindings_bare,
    duplicateFields_bare, fields, rootFindings_bare]
  rfl

theorem type_bare :
    Validation.type scope.bare (profiles.mapEntries fun _ profile => profile.withoutLocation)
      type.bare = (Validation.type scope profiles type).map .bare := by
  match type with
  | .builtIn _ => rfl
  | .declared (.scalar decl) => exact Finding.bare_locate.symm
  | .declared (.enum decl) => exact enum_bare decl
  | .declared (.object kind decl) => exact objectType_bare ⟨kind, decl⟩

theorem profile_bare (own : ProfileDecl) :
    Validation.profile name own.withoutLocation = (Validation.profile name own).map .bare := by
  simp only [Validation.profile, ProfileDecl.withoutLocation, Finding.bare_locate]

theorem typeLabels_bare {language : String} {labels : TypeLabels} :
    typeLabels scope.bare language name labels.bare = typeLabels scope language name labels := by
  have fieldKeys : labels.bare.fields.keys = labels.fields.keys := List.map_map
  have valueKeys : labels.bare.values.keys = labels.values.keys := List.map_map
  rw [typeLabels, typeLabels, Scope.bare_apply, fieldKeys, valueKeys]
  cases scope name with
  | none => rfl
  | some type =>
    have hasField (field : String) : ((type.bare.object?.bind (·.field? field))).isSome =
        (type.object?.bind (·.field? field)).isSome := by
      rw [TypeDef.object?_bare]
      cases type.object? <;> simp
    have hasValue (value : String) : ((type.bare.enum?.bind (·.value? value))).isSome =
        (type.enum?.bind (·.value? value)).isSome := by
      rw [TypeDef.enum?_bare]
      cases type.enum? <;> simp
    simp only [Option.map_some, hasField, hasValue]

theorem bundle_bare (own : Bundle) :
    bundle scope.bare own.bare = (bundle scope own).map .bare := by
  have entries : own.bare.types.entries = own.types.entries.map fun entry => (entry.1, entry.2.bare) := rfl
  simp only [bundle, Finding.bare_locate, entries, List.flatMap_map, typeLabels_bare]
  rfl

end Validation

/-! Bare declarations are put together to the bare model, and what is found in it is the same. -/

namespace Registry

theorem conflict?_bare {arena : Arena} {decl : TypeDecl} :
    conflict? arena.bare decl.bare = conflict? arena decl := by
  simp only [conflict?, TypeDecl.name_bare, Arena.bare]

theorem add_bare (registry : Registry) (decl : TypeDecl) :
    registry.bare.add decl.bare = (registry.add decl).bare := by
  cases verdict : conflict? registry.toArena decl with
  | none =>
    have same : conflict? registry.bare.toArena decl.bare = none := conflict?_bare.trans verdict
    apply ext_types
    · calc (registry.bare.add decl.bare).types
        _ = registry.types.map .bare ++ [.declared decl.bare] := types_add_of_new same
        _ = (registry.types ++ [TypeDef.declared decl]).map .bare := by rw [List.map_append]; rfl
        _ = (registry.add decl).types.map .bare := by rw [types_add_of_new verdict]
    · calc (registry.bare.add decl.bare).conflicts
        _ = registry.conflicts.map .bare := conflicts_add_of_new same
        _ = (registry.add decl).conflicts.map .bare := by rw [conflicts_add_of_new verdict]
  | some finding =>
    have same : conflict? registry.bare.toArena decl.bare = some finding :=
      conflict?_bare.trans verdict
    rw [add_of_conflict verdict, add_of_conflict same]
    simp [bare, Diagnostic.bare]

theorem ofDecls_bare (decls : List TypeDecl) : ofDecls (decls.map .bare) = (ofDecls decls).bare := by
  -- Built-in scalars have no annotations, so the fold starts from what is bare already.
  have start : builtIn.bare = builtIn := ext_types rfl rfl
  rw [ofDecls, ofDecls, List.foldl_map, ← start]
  exact List.foldl_hom bare add_bare

end Registry

theorem objectsOf_bare : objectsOf (types.map .bare) = (objectsOf types).map .bare := by
  simp only [objectsOf, List.filterMap_map, List.map_filterMap, Function.comp_def,
    TypeDef.object?_bare]

/-- Pairing sees no annotations. -/
theorem showsSame_bare : ShowsSame types (types.map .bare) Field.bare ObjectType.bare := by
  constructor
  case unseen => exact Field.unseen_bare
  case listed => exact relationFields_of_turned objectsOf_bare fun _ => ObjectType.relationFields_bare
  case named => exact fun object => rfl
  case found =>
    intro name
    rw [findObject?, findType?_bare, findObject?, Scope.object?, Scope.bare_apply, Scope.object?]
    cases findType? types name <;> simp
  case partner =>
    intro target listed field used
    rw [Field.partner?_eq, ObjectType.fields_bare, Field.unseen_bare.partnerAmong?_map]
    rfl

namespace Model

theorem ofDeclarations_bare (declarations : Declarations) :
    ofDeclarations declarations.bare = (ofDeclarations declarations).bare := by
  have registry : Registry.ofDecls declarations.bare.types =
      (Registry.ofDecls declarations.types).bare := Registry.ofDecls_bare declarations.types
  have objects : (Registry.ofDecls declarations.types).bare.types.filterMap (·.object?) =
      ((Registry.ofDecls declarations.types).types.filterMap (·.object?)).map .bare := objectsOf_bare
  have relations : Relation.resolve (Registry.ofDecls declarations.types).bare.type?
        (Registry.ofDecls declarations.types).bare.types =
      Relation.resolve (Registry.ofDecls declarations.types).type?
        (Registry.ofDecls declarations.types).types := by
    rw [Arena.type?_eq, Arena.type?_eq]
    exact showsSame_bare.resolve
  rw [ofDeclarations, registry, objects, relations, List.map_map]
  rfl

theorem diagnostics_bare (model : Model) : model.bare.diagnostics = model.diagnostics.map .bare := by
  have scope : model.bare.type? = model.type?.bare := by
    rw [type?_eq, type?_eq, ← findType?_bare]
    rfl
  have types : model.bare.types.flatMap (Validation.type model.type?.bare model.bare.profiles) =
      (model.types.flatMap (Validation.type model.type? model.profiles)).map .bare := by
    simp only [bare, Arena.bare, List.flatMap_map, List.map_flatMap, Validation.type_bare]
  have profiles : model.bare.profiles.entries.flatMap
        (fun entry => Validation.profile entry.1 entry.2) =
      (model.profiles.entries.flatMap fun entry => Validation.profile entry.1 entry.2).map .bare := by
    simp only [bare, Dictionary.mapEntries, List.flatMap_map, List.map_flatMap,
      Validation.profile_bare]
  have bundles : model.bare.bundles.flatMap (Validation.bundle model.type?.bare) =
      (model.bundles.flatMap (Validation.bundle model.type?)).map .bare := by
    simp only [bare, List.flatMap_map, List.map_flatMap, Validation.bundle_bare]
  rw [diagnostics, scope, types, profiles, bundles, diagnostics]
  simp only [List.map_append]
  rfl

end Model

namespace Report

/-- What a report says, without the places that it speaks of. -/
def sayings (report : Report) : List (Severity × String) :=
  report.messages.map fun message => (message.severity, message.text)

/-- Reports that say the same are acceptable alike. -/
theorem exitCode_eq_of_sayings {first second : Report} (same : first.sayings = second.sayings)
    (denyWarnings : Bool) : first.exitCode denyWarnings = second.exitCode denyWarnings := by
  have hasErrors (report : Report) : report.hasErrors = report.sayings.any (·.1 = .error) := by
    rw [sayings, List.any_map]
    rfl
  have warningCount (report : Report) :
      report.warningCount = (report.sayings.filter (·.1 = .warning)).length := by
    rw [sayings, List.filter_map, List.length_map]
    rfl
  simp only [exitCode, hasErrors, warningCount, same]

end Report

theorem Model.sayings_bare (model : Model) : model.bare.validate.sayings = model.validate.sayings := by
  simp only [Report.sayings, validate, diagnostics_bare, List.map_map]
  rfl

namespace Declarations

variable {declarations document first second : Declarations} {files : Files} {path other : String}

/-- The same relations and the same tree of namespaces, and validation says the same, severity by
severity and text by text. -/
structure SameVerdict (first second : Declarations) : Prop where
  relations : (Model.ofDeclarations first).relations = (Model.ofDeclarations second).relations
  namespaces : (Model.ofDeclarations first).namespaces = (Model.ofDeclarations second).namespaces
  sayings : (Model.ofDeclarations first).validate.sayings =
    (Model.ofDeclarations second).validate.sayings
  exitCode : ∀ denyWarnings, (Model.ofDeclarations first).validate.exitCode denyWarnings =
    (Model.ofDeclarations second).validate.exitCode denyWarnings

/-- Declarations that differ in annotations only are judged alike, since both are judged as what
they have in common. -/
theorem sameVerdict_of_bare (same : first.bare = second.bare) : first.SameVerdict second := by
  have models : (Model.ofDeclarations first).bare = (Model.ofDeclarations second).bare := by
    rw [← Model.ofDeclarations_bare, same, Model.ofDeclarations_bare]
  have sayings : (Model.ofDeclarations first).validate.sayings =
      (Model.ofDeclarations second).validate.sayings := by
    rw [← Model.sayings_bare, models, Model.sayings_bare]
  constructor
  case relations =>
    change (Model.ofDeclarations first).bare.relations = (Model.ofDeclarations second).bare.relations
    rw [models]
  case namespaces =>
    change (Model.ofDeclarations first).bare.namespaces = (Model.ofDeclarations second).bare.namespaces
    rw [models]
  case sayings => exact sayings
  case exitCode => exact Report.exitCode_eq_of_sayings sayings

theorem bare_withoutLocations (declarations : Declarations) :
    declarations.withoutLocations.bare = declarations.bare := by
  have types : declarations.withoutLocations.bare.types = declarations.bare.types := by
    simp only [bare, withoutLocations, List.map_map, Function.comp_def,
      TypeDecl.bare_withoutLocations]
  have profiles : declarations.withoutLocations.bare.profiles = declarations.bare.profiles := by
    refine Dictionary.ext_get? fun name => ?_
    simp only [bare, withoutLocations, Dictionary.get?_mapEntries, Option.map_map]
    rfl
  have bundles : declarations.withoutLocations.bare.bundles = declarations.bare.bundles := by
    simp only [bare, withoutLocations, List.map_map]
    rfl
  exact ext_parts types profiles bundles

theorem bare_stamp (declarations : Declarations) (source : String) :
    (declarations.stamp source).bare = declarations.bare := by
  rw [← bare_withoutLocations, withoutLocations_stamp, bare_withoutLocations]

/-- A text is the same document whatever its source is called. -/
theorem ofText_of_origin {format : Format} {origin other text : String}
    (read : ofText format origin text = .ok document) : ofText format other text = .ok document := by
  have unmapped {Cause Error : Type} (change : Cause → Error) (result : Except Cause Declarations) :
      result.mapError change = .ok document ↔ result = .ok document := by
    cases result <;> simp [Except.mapError]
  unfold ofText at read ⊢
  cases format with
  | json => exact (unmapped _ _).mpr ((unmapped _ _).mp read)
  | yaml =>
    dsimp only at read ⊢
    split at read
    case isTrue blank => rwa [if_pos blank]
    case isFalse written =>
      rw [if_neg written]
      exact (unmapped _ _).mpr ((unmapped _ _).mp read)

theorem Holds.copy (holds : Holds files path document) (same : files path = files other)
    (format : Format.ofPath path = .ofPath other) : Holds files other document := by
  obtain ⟨text, readable, parsed⟩ := holds
  exact ⟨text, same ▸ readable, format ▸ ofText_of_origin parsed⟩

/-- Declarations are judged without regard to annotations. So stamping leaves the verdict as it is, and
it does not matter which of two files a document is read from, where both hold it, as a file and
its copy do. -/
theorem verdict_ignores_annotations :
    (∀ first second : Declarations, first.bare = second.bare → first.SameVerdict second) ∧
    (∀ (declarations : Declarations) (source : String),
      (declarations.stamp source).SameVerdict declarations) ∧
    (∀ files path other document, Holds files path document → Holds files other document →
      ∃ first second, load files path = .ok first ∧ load files other = .ok second ∧
        first.SameVerdict second) ∧
    ∀ files path other first, load files path = .ok first → files path = files other →
      Format.ofPath path = .ofPath other →
        ∃ second, load files other = .ok second ∧ first.SameVerdict second := by
  have stamped (document : Declarations) (path other : String) :
      (document.stamp path).SameVerdict (document.stamp other) := by
    apply sameVerdict_of_bare
    rw [bare_stamp, bare_stamp]
  have loads {files : Files} {path : String} {document : Declarations}
      (holds : Holds files path document) : load files path = .ok (document.stamp path) :=
    load_eq_ok_iff.mpr ⟨document, holds, rfl⟩
  refine ⟨fun _ _ => sameVerdict_of_bare, ?_, ?_, ?_⟩
  · intro declarations source
    exact sameVerdict_of_bare (bare_stamp declarations source)
  · intro files path other document here there
    exact ⟨_, _, loads here, loads there, stamped document path other⟩
  · intro files path other first loaded same format
    obtain ⟨document, holds, rfl⟩ := load_eq_ok_iff.mp loaded
    exact ⟨_, loads (holds.copy same format), stamped document path other⟩

/-- Orders and their parcels, with a note and a place wherever one can stand. There is no such type as
`Money`, one value is listed twice, and a label is for a field that nobody declares. -/
def parcels (note : Option String) (place : Option SourceLocation) : Declarations where
  types := [
    .object .rootEntity {
      name := "Order"
      description := note
      namespacePath := ["shop"]
      fields := [
        { name := "parcels", typeName := "Parcel", isList := true, isRelation := true,
          description := note, location := place },
        { name := "total", typeName := "Money", location := place }]
      location := place },
    .object .rootEntity {
      name := "Parcel"
      fields := [
        { name := "order", typeName := "Order", isRelation := true, inverseOf := some "parcels" }] },
    .enum {
      name := "Status"
      values := [
        { value := "SENT", description := note },
        { value := "SENT", deprecationReason := note, location := place }] }]
  bundles := [{
    language := "en"
    types := .ofList [("Order", { label := note, fields := .ofList [("price", { hint := note })] })]
    location := place }]

/-- A scalar that goes by a small letter, as a text. -/
def coin : String := "\x7b\"types\":[\x7b\"kind\":\"SCALAR\",\"name\":\"coin\"\x7d]\x7d"

/-- With a note and no place, or with a place and no note, the three faults are told in the same
words; and a copy of a file is judged as the file is. -/
theorem parcels_same_verdict :
    (Model.ofDeclarations (parcels (some "Sent within a day.") none)).validate.sayings = [
      (.error, "Type \"Money\" not found."), (.error, "Duplicate enum value: \"SENT\"."),
      (.warning, "Localization for language \"en\" refers to unknown field \"Order.price\".")] ∧
    (parcels (some "Sent within a day.") none).SameVerdict
      (parcels none (some { source := "shop.yaml", line := some 4 })) ∧
    ∃ first second, load (fun _ => .ok coin) "coin.json" = .ok first ∧
      load (fun _ => .ok coin) "copies/coin" = .ok second ∧ first.SameVerdict second := by
  have read (origin : String) :
      ofText .json origin coin = .ok { types := [.scalar { name := "coin" }] } := by
    have document : (ofText .json inlineOrigin coin).toOption =
        some { types := [.scalar { name := "coin" }] } := by decide +kernel
    cases parsed : ofText .json inlineOrigin coin with
    | error problem => simp [parsed, Except.toOption] at document
    | ok written =>
      rw [parsed, Except.toOption, Option.some.injEq] at document
      exact ofText_of_origin (document ▸ parsed)
  refine ⟨by decide +kernel, verdict_ignores_annotations.1 _ _ (by decide +kernel),
    verdict_ignores_annotations.2.2.1 _ _ _ { types := [.scalar { name := "coin" }] }
      ⟨coin, rfl, ?_⟩ ⟨coin, rfl, ?_⟩⟩
  · have format : Format.ofPath "coin.json" = .json := by decide +kernel
    rw [format, read]
  · have format : Format.ofPath "copies/coin" = .json := by decide +kernel
    rw [format, read]

end Declarations
end TypeGraph
