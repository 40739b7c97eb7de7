import TypeGraph.Proofs.Acceptance
import TypeGraph.Proofs.Conventions

/-! Warnings of accepted models. Most rules only find errors; of each other one it is said what its
warnings are, and together they are gone exactly when every convention holds. -/
namespace TypeGraph

namespace Finding

/-- The findings that a model is accepted with. -/
def warnings (findings : List Finding) : List Finding := findings.filter (·.severity = .warning)

variable {finding : Finding} {first second : List Finding} {condition : Bool}

@[simp] theorem warnings_nil : warnings [] = [] := rfl

@[simp] theorem warnings_append :
    warnings (first ++ second) = warnings first ++ warnings second :=
  List.filter_append first second

@[simp] theorem warnings_flatMap {Item : Type} {items : List Item} {check : Item → List Finding} :
    warnings (items.flatMap check) = items.flatMap fun item => warnings (check item) :=
  List.filter_flatMap

@[simp] theorem warnings_singleton_eq_nil_iff :
    warnings [finding] = [] ↔ finding.severity ≠ .warning := by
  simp [warnings]

@[simp] theorem warnings_map_eq_nil_iff {Item : Type} {items : List Item} {blame : Item → Finding} :
    warnings (items.map blame) = [] ↔ ∀ item ∈ items, (blame item).severity ≠ .warning := by
  simp [warnings, List.filter_eq_nil_iff]

@[simp] theorem warnings_when_eq_nil_iff : warnings (when condition finding) = [] ↔
    (condition = true → finding.severity ≠ .warning) := by
  cases condition <;> simp [when, warnings]

end Finding

namespace Diagnostic

/-- What the warnings among the diagnostics have found. -/
def warnings (diagnostics : List Diagnostic) : List Finding :=
  Finding.warnings (diagnostics.map (·.finding))

@[simp] theorem warnings_append {first second : List Diagnostic} :
    warnings (first ++ second) = warnings first ++ warnings second := by
  simp [warnings]

@[simp] theorem warnings_flatMap {Item : Type} {items : List Item}
    {check : Item → List Diagnostic} :
    warnings (items.flatMap check) = items.flatMap fun item => warnings (check item) := by
  simp [warnings, List.map_flatMap]

@[simp] theorem warnings_locate {location : Option SourceLocation} {findings : List Finding} :
    warnings (Finding.locate location findings) = Finding.warnings findings := by
  simp [warnings, Finding.locate, Function.comp_def]

end Diagnostic

theorem Model.warnings_eq_nil_iff {model : Model} :
    model.validate.warnings = [] ↔ Diagnostic.warnings model.diagnostics = [] := by
  simp [Report.warnings, Model.validate, Diagnostic.warnings, Finding.warnings, Message.isWarning,
    Diagnostic.message, List.filter_eq_nil_iff]

/-- A field is found under the names of declared fields and, on an entity, of system fields. -/
theorem ObjectType.field?_isSome_iff {object : ObjectType} {name : String} :
    (object.field? name).isSome = true ↔ object.kind.isEntity = true ∧ name ∈ systemFieldNames ∨
      name ∈ object.decl.fields.map (·.name) := by
  have named : (object.field? name).isSome = true ↔ name ∈ object.fields.map (·.name) := by
    simp [field?, List.find?_isSome]
  rw [named, fields_names, systemFields_names, List.mem_append]
  split <;> simp [*]

namespace Validation

open Finding (warnings)

variable {declarations : Declarations} {types : List TypeDef} {name : String}

theorem warnings_typeName (valid : Identifier.isValid name = true) :
    warnings (typeName name) = [] ↔ StartsBetween 'A' 'Z' name := by
  have named : name ≠ "" := by
    rintro rfl
    simp [Identifier.isValid] at valid
  rw [← Identifier.startsUpper_iff]
  cases upper : Identifier.startsUpper name <;>
    simp [typeName, named, valid, upper, warnings, Finding.severity]

theorem warnings_fieldName (valid : Identifier.isValid name = true) :
    warnings (fieldName name) = [] ↔ StartsBetween 'a' 'z' name := by
  rw [← Identifier.startsLower_iff]
  cases lower : Identifier.startsLower name <;>
    simp [fieldName, valid, lower, warnings, Finding.severity]

theorem warnings_enumValue {value : String} (valid : Identifier.isValid value = true)
    (unreserved : value ∉ Identifier.reservedLiterals) :
    warnings (enumValue value) = [] ↔ NoSmallLetters value := by
  rw [← Text.isUpperCase_iff fun c member => Identifier.toNat_lt_of_isValid valid member]
  have free : Identifier.isReservedLiteral value = false := by
    simpa [Identifier.isReservedLiteral] using unreserved
  cases upper : Text.isUpperCase value <;>
    simp [enumValue, free, valid, upper, warnings, Finding.severity]

/-- Without duplicates every value is looked at. -/
theorem warnings_enumValues {location : Option SourceLocation} {seen : List String}
    {values : List EnumValueDecl} (distinct : (values.map (·.value)).Nodup)
    (fresh : ∀ value ∈ values, value.value ∉ seen)
    (valid : ∀ value ∈ values, Identifier.isValid value.value = true)
    (unreserved : ∀ value ∈ values, value.value ∉ Identifier.reservedLiterals) :
    Diagnostic.warnings (enumValues location seen values) = [] ↔
      ∀ value ∈ values, NoSmallLetters value.value := by
  induction values generalizing seen with
  | nil => simp [enumValues, Diagnostic.warnings]
  | cons value rest ih =>
    simp only [List.map_cons, List.nodup_cons, List.forall_mem_cons]
      at distinct fresh valid unreserved
    have unseen : ∀ other ∈ rest, other.value ∉ value.value :: seen := by
      intro other member again
      rcases List.mem_cons.mp again with same | old
      · exact distinct.1 (List.mem_map.mpr ⟨other, member, same⟩)
      · exact fresh.2 other member old
    have later := ih distinct.2 unseen valid.2 unreserved.2
    simp only [enumValues, List.contains_iff_mem, fresh.1, if_false, Diagnostic.warnings_append,
      Diagnostic.warnings_locate, List.append_eq_nil_iff, List.forall_mem_cons, later,
      warnings_enumValue valid.1 unreserved.1]

theorem warnings_enum {decl : EnumDecl} (named : Identifier.isValid decl.name = true)
    (valid : decl.WellFormed) : Diagnostic.warnings (enum decl) = [] ↔
      StartsBetween 'A' 'Z' decl.name ∧ ∀ value ∈ decl.values, NoSmallLetters value.value := by
  simp [enum, warnings_typeName named, Finding.severity,
    warnings_enumValues valid.distinct (fun _ _ => List.not_mem_nil) valid.valid valid.unreserved]

/-! What is wrong with a relation or an embedding is never a mere warning. -/

theorem warnings_relation {field : Field} {target : TypeDef} :
    warnings (relation (findType? types) field target) = [] := by
  have named {root : ObjectType} {inverse : String} :
      warnings (namedInverse field root inverse) = [] := by
    unfold namedInverse
    split
    · rfl
    · split_ifs <;> simp [Finding.severity]
  have several {root : ObjectType} : warnings (inverses field root) = [] := by
    simp [inverses, Finding.severity]
  unfold relation
  split
  · simp [Finding.severity]
  · split <;> simp [named, several, Finding.severity]

theorem warnings_embedding {field : Field} {target : TypeDef} :
    warnings (embedding field target) = [] := by
  unfold embedding
  split <;> simp [Finding.severity]

theorem warnings_reference {target : TypeDef} : warnings (reference target) = [] ↔
    ∀ root, target.root? = some root → root.decl.keyFieldName ≠ none := by
  unfold reference
  cases target.root? <;> simp [Finding.severity]

/-! What is wrong with an object type beside its name and its fields is never a mere warning. -/

theorem warnings_objectFindings {object : ObjectType}
    (named : Identifier.isValid object.name = true) :
    warnings (objectFindings object) = [] ↔ StartsBetween 'A' 'Z' object.name := by
  simp [objectFindings, warnings_typeName named, Finding.severity]

theorem warnings_duplicateFields {object : ObjectType} :
    Diagnostic.warnings (duplicateFields object) = [] := by
  have each (name : String) : Diagnostic.warnings (sameName object name) = [] := by
    by_cases few : (object.fields.filter (·.name == name)).length ≤ 1
    · simp [sameName, few, Diagnostic.warnings]
    · simp only [sameName, few, if_false, Diagnostic.warnings, List.map_map,
        Finding.warnings_map_eq_nil_iff, Function.comp_apply]
      intro field _
      split <;> simp [Finding.severity]
  simp [duplicateFields_eq, each]

theorem warnings_rootFindings {profiles : Dictionary ProfileDecl} {root : ObjectType} :
    warnings (rootFindings (findType? types) profiles root) = [] := by
  have key (name : String) : warnings (keyField (findType? types) root name) = [] := by
    unfold keyField
    cases root.field? name with
    | none => simp [Finding.severity]
    | some field => cases found : findType? types field.typeName <;> simp [Finding.severity, found]
  unfold rootFindings
  cases root.decl.keyFieldName <;> cases root.decl.permissionProfile <;>
    simp [key, Finding.severity]

theorem warnings_profile {profile : ProfileDecl} :
    Diagnostic.warnings (Validation.profile name profile) = [] := by
  simp [Validation.profile, Finding.severity]

section Lookups
variable (keeps : Registry.Keeps types declarations.types)
include keeps

theorem warnings_fieldFindings {kind : ObjectKind} {owner : String} {decl : FieldDecl}
    (valid : declarations.FieldWellFormed kind owner decl) :
    warnings (fieldFindings (findType? types) (.ofDecl owner decl)) = [] ↔
      declarations.FieldConventional decl := by
  obtain ⟨type, found⟩ := Option.isSome_iff_exists.mp (keeps.findType?_isSome_iff.mpr valid.type)
  have roots : warnings (reference type) = [] ↔
      ∀ root, declarations.HasRoot decl.typeName root → root.keyFieldName ≠ none := by
    rw [warnings_reference]
    constructor
    · intro keyed root rooted
      exact keyed _ ((hasRoot_iff keeps found).mp rooted)
    · intro keyed root aim
      obtain ⟨kind, body⟩ := root
      cases (root?_eq_some_iff.mp aim).2
      exact keyed body ((hasRoot_iff keeps found).mpr aim)
  have aim : warnings (fieldTarget (findType? types) (.ofDecl owner decl) type) = [] ↔
      (decl.isReference = true →
        ∀ root, declarations.HasRoot decl.typeName root → root.keyFieldName ≠ none) := by
    unfold fieldTarget
    cases relates : decl.isRelation with
    | true => simp [Field.isRelation, relates, valid.exclusive relates, warnings_relation]
    | false =>
      cases points : decl.isReference <;>
        simp [Field.isRelation, Field.isReference, relates, points, warnings_embedding, roots]
  have name := warnings_fieldName valid.name
  have both : warnings (fieldFindings (findType? types) (.ofDecl owner decl)) = [] ↔
      StartsBetween 'a' 'z' decl.name ∧ (decl.isReference = true →
        ∀ root, declarations.HasRoot decl.typeName root → root.keyFieldName ≠ none) := by
    simp only [fieldFindings, Field.ofDecl, Field.name, Field.typeName, found] at name aim ⊢
    simp [name, aim, Finding.severity]
  rw [both]
  exact ⟨fun rules => ⟨rules.1, rules.2⟩, fun rules => ⟨rules.name, rules.reference⟩⟩

theorem warnings_fields {object : ObjectType}
    (valid : ∀ decl ∈ object.decl.fields,
      declarations.FieldWellFormed object.kind object.name decl) :
    Diagnostic.warnings (object.fields.flatMap (field (findType? types))) = [] ↔
      ∀ decl ∈ object.decl.fields, declarations.FieldConventional decl := by
  simp only [Diagnostic.warnings_flatMap, List.flatMap_eq_nil_iff, field, Diagnostic.warnings_locate]
  constructor
  · intro quiet decl declared
    exact (warnings_fieldFindings keeps (valid decl declared)).mp
      (quiet _ (ObjectType.ofDecl_mem_fields declared))
  · intro rules field owned
    rcases ObjectType.mem_fields_iff.mp owned with system | ⟨decl, declared, rfl⟩
    · obtain ⟨name, _, scalar, rfl⟩ := ObjectType.of_mem_systemFields system
      simp [fieldFindings, Field.system]
    · exact (warnings_fieldFindings keeps (valid decl declared)).mpr (rules decl declared)

theorem warnings_objectType {object : ObjectType} {profiles : Dictionary ProfileDecl}
    (named : Identifier.isValid object.name = true)
    (valid : declarations.ObjectWellFormed object.kind object.decl) :
    Diagnostic.warnings (objectType (findType? types) profiles object) = [] ↔
      StartsBetween 'A' 'Z' object.name ∧
        ∀ decl ∈ object.decl.fields, declarations.FieldConventional decl := by
  have root :
      warnings (if object.isRoot then rootFindings (findType? types) profiles object else []) = [] := by
    split
    · exact warnings_rootFindings
    · rfl
  simp only [objectType, Diagnostic.warnings_append, Diagnostic.warnings_locate,
    List.append_eq_nil_iff, warnings_objectFindings named, warnings_duplicateFields,
    warnings_fields keeps valid.fields, root, and_true]

/-- The warnings about a type are those about its name, its fields and its values. -/
theorem warnings_type {profiles : Dictionary ProfileDecl} {decl : TypeDecl}
    (named : Identifier.isValid decl.name = true) (valid : declarations.TypeWellFormed decl) :
    Diagnostic.warnings (type (findType? types) profiles (.declared decl)) = [] ↔
      declarations.TypeConventional decl := by
  have parts : Diagnostic.warnings (type (findType? types) profiles (.declared decl)) = [] ↔
      StartsBetween 'A' 'Z' decl.name ∧
      (∀ field ∈ decl.fields, declarations.FieldConventional field) ∧
      ∀ value ∈ decl.values, NoSmallLetters value.value := by
    cases decl with
    | scalar decl =>
      have name : warnings (typeName decl.name) = [] ↔ StartsBetween 'A' 'Z' decl.name :=
        warnings_typeName named
      simpa [type, TypeDecl.name, TypeDecl.fields, TypeDecl.values] using name
    | enum decl =>
      simpa [type, TypeDecl.name, TypeDecl.fields, TypeDecl.values] using warnings_enum named valid
    | object kind decl =>
      have object : Diagnostic.warnings (objectType (findType? types) profiles ⟨kind, decl⟩) = [] ↔
          StartsBetween 'A' 'Z' decl.name ∧
            ∀ field ∈ decl.fields, declarations.FieldConventional field :=
        warnings_objectType keeps named valid
      simpa [type, TypeDecl.name, TypeDecl.fields, TypeDecl.values] using object
  rw [parts]
  exact ⟨fun rules => ⟨rules.1, rules.2.1, rules.2.2⟩,
    fun rules => ⟨rules.name, rules.fields, rules.values⟩⟩

theorem hasField_iff {found : TypeDef} (here : findType? types name = some found) {field : String} :
    (found.object?.bind (·.field? field)).isSome = true ↔ declarations.HasField name field := by
  simp only [Declarations.HasField, ← and_assoc, keeps.object_iff here]
  match found with
  | .builtIn scalar => simp [TypeDef.object?]
  | .declared (.scalar decl) => simp [TypeDef.object?]
  | .declared (.enum decl) => simp [TypeDef.object?]
  | .declared (.object kind decl) => simp [TypeDef.object?, ObjectType.field?_isSome_iff]

theorem hasValue_iff {found : TypeDef} (here : findType? types name = some found) {value : String} :
    (found.enum?.bind (·.value? value)).isSome = true ↔ declarations.HasValue name value := by
  have enum_iff {decl : EnumDecl} : .enum decl ∈ declarations.types ∧ decl.name = name ↔
      found = .declared (.enum decl) := keeps.declared_iff here
  simp only [Declarations.HasValue, ← and_assoc, enum_iff]
  match found with
  | .builtIn scalar => simp [TypeDef.enum?]
  | .declared (.scalar decl) => simp [TypeDef.enum?]
  | .declared (.object kind decl) => simp [TypeDef.enum?]
  | .declared (.enum decl) => simp [TypeDef.enum?, EnumDecl.value?, List.find?_isSome]

theorem typeLabels_eq_nil_iff {language : String} {labels : TypeLabels} :
    typeLabels (findType? types) language name labels = [] ↔ declarations.LabelsKnown name labels := by
  cases here : findType? types name with
  | none =>
    simp only [typeLabels, here, List.cons_ne_nil, false_iff]
    intro known
    have kept := keeps.findType?_isSome_iff.mpr known.type
    simp [here] at kept
  | some found =>
    have known : declarations.KnowsType name :=
      keeps.findType?_isSome_iff.mp (Option.isSome_iff_exists.mpr ⟨found, here⟩)
    simp only [typeLabels, here, List.append_eq_nil_iff, List.map_eq_nil_iff, List.filter_eq_nil_iff,
      Bool.not_eq_true', Bool.not_eq_false, hasField_iff keeps here, hasValue_iff keeps here]
    exact ⟨fun rules => ⟨known, rules.1, rules.2⟩, fun rules => ⟨rules.fields, rules.values⟩⟩

/-- Every finding about labels is a warning. -/
theorem warnings_bundle {bundle : Bundle} :
    Diagnostic.warnings (Validation.bundle (findType? types) bundle) = [] ↔
      ∀ entry ∈ bundle.types.entries, declarations.LabelsKnown entry.1 entry.2 := by
  have each (language name : String) (labels : TypeLabels) :
      warnings (typeLabels (findType? types) language name labels) =
        typeLabels (findType? types) language name labels := by
    refine List.filter_eq_self.mpr fun finding member => ?_
    unfold typeLabels at member
    split at member
    · cases List.mem_singleton.mp member
      rfl
    · rcases List.mem_append.mp member with field | value
      · obtain ⟨_, _, rfl⟩ := List.mem_map.mp field
        rfl
      · obtain ⟨_, _, rfl⟩ := List.mem_map.mp value
        rfl
  simp only [Validation.bundle, Diagnostic.warnings_locate, Finding.warnings_flatMap, each,
    List.flatMap_eq_nil_iff, typeLabels_eq_nil_iff keeps]

end Lookups

end Validation

namespace Declarations

variable {declarations : Declarations}

/-- Well-formed declarations give no warning exactly when they follow every convention. -/
theorem WellFormed.warnings_eq_nil_iff (valid : declarations.WellFormed) :
    (Model.ofDeclarations declarations).validate.warnings = [] ↔ declarations.Conventional := by
  have clean := valid.conflicts_eq_nil
  have keeps := Registry.keeps_ofDecls clean
  have conflicts : Diagnostic.warnings (Registry.ofDecls declarations.types).conflicts = [] := by
    rw [clean]
    rfl
  have types : (∀ type ∈ (Registry.ofDecls declarations.types).types, Diagnostic.warnings
        (Validation.type (findType? (Registry.ofDecls declarations.types).types)
          declarations.profiles type) = []) ↔
      ∀ decl ∈ declarations.types, declarations.TypeConventional decl := by
    constructor
    · intro quiet decl declared
      exact (Validation.warnings_type keeps (valid.valid decl declared)
        (valid.types decl declared)).mp (quiet _ (keeps.declared_mem_iff.mpr declared))
    · intro rules type member
      cases type with
      | builtIn scalar => rfl
      | declared decl =>
        have declared := keeps.declared_mem_iff.mp member
        exact (Validation.warnings_type keeps (valid.valid decl declared)
          (valid.types decl declared)).mpr (rules decl declared)
  simp only [Model.warnings_eq_nil_iff, Model.diagnostics_eq, Model.ofDeclarations,
    Diagnostic.warnings_append, Diagnostic.warnings_flatMap, List.append_eq_nil_iff,
    List.flatMap_eq_nil_iff, conflicts, types, Validation.warnings_profile,
    Validation.warnings_bundle keeps, implies_true, true_and, and_true]
  exact ⟨fun rules => ⟨rules.1, rules.2⟩, fun rules => ⟨rules.types, rules.labels⟩⟩

/-- Where warnings count, an accepted model passes exactly when it follows every convention. -/
theorem unwarned_iff_conventional
    (passed : (Model.ofDeclarations declarations).validate.hasErrors = false) :
    ((Model.ofDeclarations declarations).validate.warnings = [] ↔ declarations.Conventional) ∧
    ((Model.ofDeclarations declarations).validate.exitCode true = 0 ↔
      declarations.Conventional) := by
  have quiet := (hasErrors_eq_false_iff.mp passed).warnings_eq_nil_iff
  refine ⟨quiet, ?_⟩
  rw [← quiet, Report.exitCode, passed, Report.warningCount]
  simp [List.length_pos_iff]

/-- A product with a maker, in a state whose second value is a parameter, with labels for both. -/
def catalog (sold : String) : Declarations where
  types := [
    .object .rootEntity {
      name := "Product"
      fields := [
        { name := "state", typeName := "State" },
        { name := "maker", typeName := "Maker", isReference := true }] },
    .object .rootEntity {
      name := "Maker"
      fields := [{ name := "code", typeName := "String" }]
      keyFieldName := some "code" },
    .enum { name := "State", values := [{ value := "IN_STOCK" }, { value := sold }] }]
  bundles := [{
    language := "en"
    types := .ofList [
      ("Product", { fields := .ofList [("createdAt", {}), ("maker", {})] }),
      ("State", { values := .ofList [("IN_STOCK", {})] })] }]

/-- The case of a value decides whether the catalog follows the conventions. -/
theorem catalog_conventional : (Model.ofDeclarations (catalog "SOLD")).validate.hasErrors = false ∧
    (catalog "SOLD").Conventional ∧
    (Model.ofDeclarations (catalog "Sold")).validate.hasErrors = false ∧
    ¬(catalog "Sold").Conventional := by
  have upper : (Model.ofDeclarations (catalog "SOLD")).validate.hasErrors = false := by
    decide +kernel
  have mixed : (Model.ofDeclarations (catalog "Sold")).validate.hasErrors = false := by
    decide +kernel
  have conventional := (unwarned_iff_conventional upper).2.mp (by decide +kernel)
  refine ⟨upper, conventional, mixed, fun follows => ?_⟩
  exact absurd ((unwarned_iff_conventional mixed).2.mpr follows) (by decide +kernel)

end Declarations
end TypeGraph
