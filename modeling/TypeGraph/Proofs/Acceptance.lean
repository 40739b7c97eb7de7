import TypeGraph.Proofs.FieldGroups
import TypeGraph.Proofs.FieldRules

/-! Validation accepts exactly the well-formed declarations. -/
namespace TypeGraph

variable {declarations : Declarations} {types : List TypeDef} {object : ObjectType} {name : String}

namespace ObjectType

theorem systemFields_names :
    object.systemFields.map (·.name) = if object.kind.isEntity then systemFieldNames else [] := by
  unfold systemFields
  split <;> rfl

/-- No two system fields have one name. -/
theorem length_filter_systemFields_le_one (name : String) :
    (object.systemFields.filter (·.name == name)).length ≤ 1 := by
  refine nodup_map_iff_filter.mp ?_ name
  rw [systemFields_names]
  split <;> decide

theorem fields_names : object.fields.map (·.name) =
    object.systemFields.map (·.name) ++ object.decl.fields.map (·.name) := by
  simp [fields, userFields, Function.comp_def]

/-- Field names are distinct exactly when the declared ones are and no system field has one. -/
theorem uniqueFields_iff : object.UniqueFields ↔
    (object.decl.fields.map (·.name)).Nodup ∧
      (object.kind.isEntity = true → ∀ field ∈ object.decl.fields, field.name ∉ systemFieldNames) := by
  rw [UniqueFields, fields_names, systemFields_names]
  by_cases entity : object.kind.isEntity = true
  · simp only [entity, if_true, forall_const, List.nodup_append]
    constructor
    · intro nodup
      obtain ⟨-, distinct, apart⟩ := nodup
      exact ⟨distinct, fun field declared reserved =>
        apart _ reserved _ (List.mem_map.mpr ⟨field, declared, rfl⟩) rfl⟩
    · intro rules
      obtain ⟨distinct, unreserved⟩ := rules
      refine ⟨by decide, distinct, ?_⟩
      rintro name reserved other member rfl
      obtain ⟨field, declared, same⟩ := List.mem_map.mp member
      exact unreserved field declared (same ▸ reserved)
  · simp [entity]

end ObjectType

namespace Validation

open Finding (Harmless)

/-- A name is blamed on declared fields only, and two system fields never share one. -/
theorem harmless_sameName : Diagnostic.Harmless (sameName object name) ↔
    (object.fields.filter (·.name == name)).length ≤ 1 := by
  constructor
  · intro harmless
    by_contra several
    have system := object.length_filter_systemFields_le_one name
    obtain ⟨field, member, same⟩ : ∃ field ∈ object.userFields, field.name = name := by
      by_contra missing
      have none : object.userFields.filter (·.name == name) = [] := by
        simpa [List.filter_eq_nil_iff] using missing
      simp [ObjectType.fields, none] at several
      omega
    obtain ⟨decl, declared, rfl⟩ := List.mem_map.mp member
    have blamed := harmless
    simp only [sameName, several, if_false, Diagnostic.Harmless, List.map_map, Function.comp_def,
      Finding.harmless_map] at blamed
    have warning := blamed (.ofDecl object.name decl) (by
      simpa [Field.ofDecl, ← same] using ObjectType.ofDecl_mem_fields declared)
    revert warning
    split <;> simp [Finding.severity]
  · intro few
    simp [sameName, few, Diagnostic.Harmless]

theorem harmless_duplicateFields :
    Diagnostic.Harmless (duplicateFields object) ↔ object.UniqueFields := by
  rw [duplicateFields_eq, Diagnostic.harmless_flatMap, ObjectType.UniqueFields, nodup_map_iff_filter]
  simp only [harmless_sameName]
  constructor
  · intro few name
    by_cases used : name ∈ fieldNames object.fields
    · exact few name used
    · have unused : object.fields.filter (·.name == name) = [] := by
        simpa [fieldNames, List.mem_eraseDups, List.filter_eq_nil_iff] using used
      simp [unused]
  · intro few name _
    exact few name

theorem harmless_objectFindings : Harmless (objectFindings object) ↔
    Identifier.isValid object.name = true ∧
    (∀ segment ∈ object.decl.namespacePath, Identifier.isValid segment = true) ∧
    (object.decl.keyFieldName.isSome = true → object.kind = .rootEntity) ∧
    (object.decl.permissionProfile.isSome = true → object.kind = .rootEntity) ∧
    object.decl.fields ≠ [] := by
  have misplaced (present : Bool) : ((!object.isRoot && present) = true → False) ↔
      (present = true → object.kind = .rootEntity) := by
    cases present <;> simp [ObjectType.isRoot]
  simp only [objectFindings, Finding.harmless_append, harmless_typeName, Finding.harmless_map,
    Finding.harmless_when, Finding.severity, reduceCtorEq, misplaced, List.isEmpty_iff,
    ObjectType.namespacePath, and_assoc]
  simp

theorem isLeaf_iff (keeps : Registry.Keeps types declarations.types) : declarations.IsLeaf name ↔
    ∀ type, findType? types name = some type → type.kind.isObject = false := by
  constructor
  · intro leaf type found
    match type with
    | .builtIn scalar => rfl
    | .declared (.scalar decl) => rfl
    | .declared (.enum decl) => rfl
    | .declared (.object kind decl) =>
      obtain ⟨declared, same⟩ := (keeps.object_iff found).mpr rfl
      exact absurd same (leaf kind decl declared)
  · rintro single kind decl declared rfl
    cases single _ (keeps.findType?_declared declared)

theorem harmless_keyField_iff : Harmless (keyField (findType? types) object name) ↔
    ∃ field, object.field? name = some field ∧ field.isList = false ∧
      ∀ type, findType? types field.typeName = some type → type.kind.isObject = false := by
  unfold keyField
  cases object.field? name with
  | none => simp [Finding.severity]
  | some field => cases found : findType? types field.typeName <;> simp [Finding.severity, found]

theorem harmless_keyField (keeps : Registry.Keeps types declarations.types)
    (root : object.kind = .rootEntity) (unique : object.UniqueFields) :
    Harmless (keyField (findType? types) object name) ↔
      declarations.KeyWellFormed object.decl name := by
  simp only [harmless_keyField_iff, ← isLeaf_iff keeps]
  constructor
  · intro held
    obtain ⟨field, found, single, leaf⟩ := held
    obtain ⟨member, rfl⟩ := mem_of_field? found
    rcases ObjectType.mem_fields_iff.mp member with system | ⟨decl, declared, rfl⟩
    · obtain ⟨name, reserved, scalar, rfl⟩ := ObjectType.of_mem_systemFields system
      exact .inl reserved
    · exact .inr ⟨decl, declared, rfl, single, leaf⟩
  · rintro (reserved | ⟨decl, declared, rfl, single, leaf⟩)
    · have entity : object.kind.isEntity = true := by rw [root]; rfl
      obtain ⟨scalar, member⟩ := ObjectType.system_mem_fields entity reserved
      refine ⟨_, unique.field?_eq_some_iff.mpr ⟨member, rfl⟩, rfl, (isLeaf_iff keeps).mpr ?_⟩
      intro type found
      cases Option.some.inj ((keeps.findType?_builtIn scalar).symm.trans found)
      rfl
    · exact ⟨_, unique.field?_eq_some_iff.mpr ⟨ObjectType.ofDecl_mem_fields declared, rfl⟩,
        single, leaf⟩

theorem harmless_rootFindings {profiles : Dictionary ProfileDecl} :
    Harmless (rootFindings (findType? types) profiles object) ↔
      (∀ name, object.decl.keyFieldName = some name →
        Harmless (keyField (findType? types) object name)) ∧
      ∀ name, object.decl.permissionProfile = some name → profiles.contains name = true := by
  unfold rootFindings
  cases object.decl.keyFieldName <;> cases object.decl.permissionProfile <;>
    simp [Finding.severity]

section Objects
variable (keeps : Registry.Keeps types declarations.types)
  (uniqueFields : ∀ object ∈ objectsOf types, object.UniqueFields)
include keeps uniqueFields

theorem harmless_fields (member : object ∈ objectsOf types) :
    Diagnostic.Harmless (object.fields.flatMap (field (findType? types))) ↔
      ∀ decl ∈ object.decl.fields,
        declarations.FieldWellFormed object.kind object.name decl := by
  simp only [Diagnostic.harmless_flatMap, field, Diagnostic.harmless_locate]
  constructor
  · intro each decl declared
    exact (harmless_fieldFindings keeps member uniqueFields declared).mp
      (each _ (ObjectType.ofDecl_mem_fields declared))
  · intro each field owned
    rcases ObjectType.mem_fields_iff.mp owned with system | ⟨decl, declared, rfl⟩
    · obtain ⟨name, _, scalar, rfl⟩ := ObjectType.of_mem_systemFields system
      simp [fieldFindings, Field.system]
    · exact (harmless_fieldFindings keeps member uniqueFields declared).mpr (each decl declared)

theorem harmless_objectType (member : object ∈ objectsOf types) :
    Diagnostic.Harmless (objectType (findType? types) declarations.profiles object) ↔
      Identifier.isValid object.name = true ∧
        declarations.ObjectWellFormed object.kind object.decl := by
  have unique := uniqueFields object member
  simp only [objectType, Diagnostic.harmless_append, Diagnostic.harmless_locate,
    harmless_objectFindings, harmless_duplicateFields, harmless_fields keeps uniqueFields member]
  constructor
  · intro harmless
    obtain ⟨⟨⟨⟨name, path, keyRoot, profileRoot, nonempty⟩, -⟩, fields⟩, root⟩ := harmless
    obtain ⟨distinct, unreserved⟩ := ObjectType.uniqueFields_iff.mp unique
    refine ⟨name, path, nonempty, distinct, unreserved, fields, ?_, ?_⟩
    · intro key names
      have kind := keyRoot (by simp [names])
      simp only [ObjectType.isRoot, kind, decide_true, if_true, harmless_rootFindings] at root
      exact ⟨kind, (harmless_keyField keeps kind unique).mp (root.1 key names)⟩
    · intro profile names
      have kind := profileRoot (by simp [names])
      simp only [ObjectType.isRoot, kind, decide_true, if_true, harmless_rootFindings] at root
      exact ⟨kind, root.2 profile names⟩
  · intro rules
    obtain ⟨name, valid⟩ := rules
    refine ⟨⟨⟨⟨name, valid.path, ?_, ?_, valid.nonempty⟩, unique⟩, valid.fields⟩, ?_⟩
    · intro present
      obtain ⟨key, names⟩ := Option.isSome_iff_exists.mp present
      exact (valid.key key names).1
    · intro present
      obtain ⟨profile, names⟩ := Option.isSome_iff_exists.mp present
      exact (valid.profile profile names).1
    · split
      · next root =>
        refine harmless_rootFindings.mpr ⟨fun key names => ?_, fun profile names =>
          (valid.profile profile names).2⟩
        exact (harmless_keyField keeps (by simpa [ObjectType.isRoot] using root) unique).mpr
          (valid.key key names).2
      · simp

theorem harmless_type {decl : TypeDecl} (declared : decl ∈ declarations.types) :
    Diagnostic.Harmless (type (findType? types) declarations.profiles (.declared decl)) ↔
      Identifier.isValid decl.name = true ∧ declarations.TypeWellFormed decl := by
  cases decl with
  | scalar decl => simp [type, harmless_typeName, Declarations.TypeWellFormed, TypeDecl.name]
  | enum decl => exact harmless_enum
  | object kind decl =>
    exact harmless_objectType keeps uniqueFields (keeps.mem_objectsOf_iff.mpr declared)

end Objects

theorem harmless_profile {profile : ProfileDecl} :
    Diagnostic.Harmless (Validation.profile name profile) ↔
      ∀ permission ∈ profile.permissions, permission.roles ≠ [] := by
  simp [Validation.profile, Finding.severity]

/-- Labels for what a model does not have are never errors. -/
theorem harmless_bundle {bundle : Bundle} :
    Diagnostic.Harmless (Validation.bundle (findType? types) bundle) := by
  simp only [Validation.bundle, Diagnostic.harmless_locate, Finding.harmless_flatMap]
  intro entry _
  unfold typeLabels
  split <;> simp [Finding.severity]

end Validation

namespace Registry

/-- Whatever is turned away is an error. -/
theorem severity_of_mem_conflicts {decls : List TypeDecl} {registry : Registry}
    (old : ∀ diagnostic ∈ registry.conflicts, diagnostic.finding.severity = .error) :
    ∀ diagnostic ∈ (decls.foldl add registry).conflicts, diagnostic.finding.severity = .error := by
  induction decls generalizing registry with
  | nil => exact old
  | cons decl rest ih =>
    apply ih
    cases verdict : conflict? registry.toArena decl with
    | some finding =>
      have severe : finding.severity = .error := by
        unfold conflict? at verdict
        split at verdict
        · cases verdict; rfl
        · split at verdict <;> cases verdict
          rfl
      simpa [add_of_conflict verdict, or_imp, forall_and, severe] using old
    | none => rwa [conflicts_add_of_new verdict]

theorem harmless_conflicts {decls : List TypeDecl} :
    Diagnostic.Harmless (ofDecls decls).conflicts ↔ (ofDecls decls).conflicts = [] := by
  have severe : ∀ diagnostic ∈ (ofDecls decls).conflicts, diagnostic.finding.severity = .error :=
    severity_of_mem_conflicts (by simp [builtIn])
  constructor
  · intro harmless
    refine List.eq_nil_iff_forall_not_mem.mpr fun diagnostic member => ?_
    have warning := harmless _ (List.mem_map.mpr ⟨diagnostic, member, rfl⟩)
    rw [severe diagnostic member] at warning
    cases warning
  · intro clean
    simp [clean, Diagnostic.Harmless]

end Registry

namespace Declarations

theorem harmless_diagnostics_iff : Diagnostic.Harmless (Model.ofDeclarations declarations).diagnostics ↔
    (Registry.ofDecls declarations.types).conflicts = [] ∧
    (∀ type ∈ (Registry.ofDecls declarations.types).types, Diagnostic.Harmless
      (Validation.type (findType? (Registry.ofDecls declarations.types).types) declarations.profiles
        type)) ∧
    ∀ profile ∈ declarations.profiles.values, ∀ permission ∈ profile.permissions,
      permission.roles ≠ [] := by
  simp only [Model.diagnostics_eq, Model.ofDeclarations, Diagnostic.harmless_append,
    Diagnostic.harmless_flatMap, Registry.harmless_conflicts, Validation.harmless_profile,
    Validation.harmless_bundle, implies_true, and_true, Dictionary.values, List.forall_mem_map,
    and_assoc]

theorem uniqueFields_of_harmless {profiles : Dictionary ProfileDecl}
    (harmless : ∀ type ∈ types,
      Diagnostic.Harmless (Validation.type (findType? types) profiles type)) :
    ∀ object ∈ objectsOf types, object.UniqueFields := by
  intro object member
  have checked := harmless _ (mem_objectsOf_iff.mp member)
  simp only [Validation.type, Validation.objectType, Diagnostic.harmless_append] at checked
  exact Validation.harmless_duplicateFields.mp checked.1.1.2

theorem WellFormed.objectWellFormed (valid : declarations.WellFormed)
    (keeps : Registry.Keeps types declarations.types) (kept : object ∈ objectsOf types) :
    declarations.ObjectWellFormed object.kind object.decl :=
  valid.types _ (keeps.mem_objectsOf_iff.mp kept)

theorem WellFormed.uniqueFields (valid : declarations.WellFormed)
    (keeps : Registry.Keeps types declarations.types) :
    ∀ object ∈ objectsOf types, object.UniqueFields := by
  intro object kept
  have objectValid := valid.objectWellFormed keeps kept
  exact ObjectType.uniqueFields_iff.mpr ⟨objectValid.distinct, objectValid.unreserved⟩

theorem WellFormed.conflicts_eq_nil (valid : declarations.WellFormed) :
    (Registry.ofDecls declarations.types).conflicts = [] := by
  refine Registry.conflicts_ofDecls_eq_nil_iff.mpr ⟨fun decl declared => ?_, valid.distinct⟩
  simpa [BuiltIn.isName] using valid.unbuilt decl declared

/-- Nothing that validation finds is an error exactly when the declarations are well-formed. -/
theorem hasErrors_eq_false_iff :
    (Model.ofDeclarations declarations).validate.hasErrors = false ↔ declarations.WellFormed := by
  rw [Model.hasErrors_eq_false_iff, harmless_diagnostics_iff]
  constructor
  · intro passed
    obtain ⟨clean, harmless, roles⟩ := passed
    have keeps := Registry.keeps_ofDecls clean
    obtain ⟨unbuilt, distinct⟩ := Registry.conflicts_ofDecls_eq_nil_iff.mp clean
    have each : ∀ decl ∈ declarations.types,
        Identifier.isValid decl.name = true ∧ declarations.TypeWellFormed decl := by
      intro decl declared
      exact (Validation.harmless_type keeps (uniqueFields_of_harmless harmless) declared).mp
        (harmless _ (keeps.declared_mem_iff.mpr declared))
    exact ⟨distinct, fun decl declared => (each decl declared).1,
      fun decl declared => by simpa [BuiltIn.isName] using unbuilt decl declared,
      fun decl declared => (each decl declared).2, roles⟩
  · intro valid
    have keeps := Registry.keeps_ofDecls valid.conflicts_eq_nil
    refine ⟨valid.conflicts_eq_nil, fun type member => ?_, valid.roles⟩
    cases type with
    | builtIn scalar => simp [Validation.type, Diagnostic.Harmless]
    | declared decl =>
      have declared := keeps.declared_mem_iff.mp member
      exact (Validation.harmless_type keeps (valid.uniqueFields keeps) declared).mpr
        ⟨valid.valid decl declared, valid.types decl declared⟩

/-- A model is built from well-formed declarations and from no others. -/
theorem build_isOk_iff : (∃ model, declarations.build = .ok model) ↔ declarations.WellFormed := by
  rw [← hasErrors_eq_false_iff]
  unfold build
  cases verdict : (Model.ofDeclarations declarations).validate.hasErrors <;> simp [verdict]

end Declarations
end TypeGraph
