import TypeGraph.Validation
import TypeGraph.Proofs.WellFormed

/-! Findings without an error among them. A check is read as a condition on what it is given: the
condition under which nothing that it finds is an error. Names and enum types come first, since
their rules ask for nothing outside of them. -/
namespace TypeGraph

namespace Finding

/-- None of the findings is an error. -/
def Harmless (findings : List Finding) : Prop := ∀ finding ∈ findings, finding.severity = .warning

variable {finding : Finding} {first second : List Finding}

@[simp] theorem harmless_nil : Harmless [] := by simp [Harmless]

@[simp] theorem harmless_cons :
    Harmless (finding :: second) ↔ finding.severity = .warning ∧ Harmless second := by
  simp [Harmless]

@[simp] theorem harmless_append :
    Harmless (first ++ second) ↔ Harmless first ∧ Harmless second := by
  simp [Harmless, or_imp, forall_and]

@[simp] theorem harmless_map {Item : Type} {items : List Item} {blame : Item → Finding} :
    Harmless (items.map blame) ↔ ∀ item ∈ items, (blame item).severity = .warning := by
  simp [Harmless]

@[simp] theorem harmless_flatMap {Item : Type} {items : List Item} {check : Item → List Finding} :
    Harmless (items.flatMap check) ↔ ∀ item ∈ items, Harmless (check item) := by
  simp only [Harmless, List.mem_flatMap]
  exact ⟨fun all item member finding found => all finding ⟨item, member, found⟩,
    fun all finding ⟨item, member, found⟩ => all item member finding found⟩

@[simp] theorem harmless_when {condition : Bool} :
    Harmless (when condition finding) ↔ (condition = true → finding.severity = .warning) := by
  cases condition <;> simp [when]

end Finding

namespace Diagnostic

/-- None of the diagnostics is an error. -/
def Harmless (diagnostics : List Diagnostic) : Prop :=
  Finding.Harmless (diagnostics.map (·.finding))

@[simp] theorem harmless_append {first second : List Diagnostic} :
    Harmless (first ++ second) ↔ Harmless first ∧ Harmless second := by
  simp only [Harmless, List.map_append, Finding.harmless_append]

@[simp] theorem harmless_flatMap {Item : Type} {items : List Item}
    {check : Item → List Diagnostic} :
    Harmless (items.flatMap check) ↔ ∀ item ∈ items, Harmless (check item) := by
  simp only [Harmless, List.map_flatMap, Finding.harmless_flatMap]

@[simp] theorem harmless_locate {location : Option SourceLocation} {findings : List Finding} :
    Harmless (Finding.locate location findings) ↔ Finding.Harmless findings := by
  simp [Harmless, Finding.locate, Function.comp_def]

end Diagnostic

theorem Model.hasErrors_eq_false_iff {model : Model} :
    model.validate.hasErrors = false ↔ Diagnostic.Harmless model.diagnostics := by
  have reading (severity : Severity) : severity ≠ .error ↔ severity = .warning := by
    cases severity <;> simp
  simp [Report.hasErrors, Model.validate, Diagnostic.Harmless, Message.isError, Diagnostic.message,
    reading]

namespace Validation

open Finding (Harmless)

theorem harmless_typeName {name : String} :
    Harmless (typeName name) ↔ Identifier.isValid name = true := by
  unfold typeName
  split
  · next empty =>
    subst empty
    simp [Finding.severity, Identifier.isValid]
  · split
    · next invalid => simpa [Finding.severity] using invalid
    · next valid => split <;> simp_all [Finding.severity]

theorem harmless_fieldName {name : String} :
    Harmless (fieldName name) ↔ Identifier.isValid name = true := by
  unfold fieldName
  split
  · next invalid => simpa [Finding.severity] using invalid
  · next valid => split <;> simp_all [Finding.severity]

theorem harmless_enumValue {value : String} :
    Harmless (enumValue value) ↔
      Identifier.isValid value = true ∧ value ∉ Identifier.reservedLiterals := by
  unfold enumValue
  split
  · next reserved =>
    simpa [Finding.severity, Identifier.isReservedLiteral] using fun _ => reserved
  · next free =>
    split
    · next invalid => simp_all [Finding.severity]
    · next valid =>
      have unreserved : value ∉ Identifier.reservedLiterals := by
        simpa [Identifier.isReservedLiteral] using free
      split <;> simp_all [Finding.severity]

/-- Duplicates are told by the values seen before, so the condition speaks of those too. -/
theorem harmless_enumValues {location : Option SourceLocation} {seen : List String}
    {values : List EnumValueDecl} :
    Diagnostic.Harmless (enumValues location seen values) ↔
      (values.map (·.value)).Nodup ∧ ∀ value ∈ values, value.value ∉ seen ∧
        Identifier.isValid value.value = true ∧ value.value ∉ Identifier.reservedLiterals := by
  induction values generalizing seen with
  | nil => simp [enumValues, Diagnostic.Harmless]
  | cons value rest ih =>
    simp only [enumValues, Diagnostic.harmless_append, ih, List.map_cons, List.nodup_cons,
      List.mem_map, List.mem_cons, forall_eq_or_imp, not_or, not_exists, not_and]
    by_cases repeated : value.value ∈ seen
    · simp [repeated, Diagnostic.Harmless, Finding.severity]
    · simp only [List.contains_iff_mem, repeated, if_false, Diagnostic.harmless_locate,
        harmless_enumValue]
      constructor
      · intro harmless
        obtain ⟨own, distinct, later⟩ := harmless
        exact ⟨⟨fun other member => (later other member).1.1, distinct⟩,
          ⟨not_false, own⟩, fun other member => ⟨(later other member).1.2, (later other member).2⟩⟩
      · intro rules
        obtain ⟨⟨fresh, distinct⟩, ⟨-, own⟩, later⟩ := rules
        exact ⟨own, distinct, fun other member =>
          ⟨⟨fresh other member, (later other member).1⟩, (later other member).2⟩⟩

theorem harmless_enum {decl : EnumDecl} :
    Diagnostic.Harmless (enum decl) ↔ Identifier.isValid decl.name = true ∧ decl.WellFormed := by
  simp only [enum, Diagnostic.harmless_append, Diagnostic.harmless_locate, harmless_typeName,
    Finding.harmless_when, harmless_enumValues, List.isEmpty_iff, Finding.severity, reduceCtorEq,
    imp_false, and_assoc]
  refine and_congr_right fun _ => ?_
  constructor
  · intro harmless
    obtain ⟨nonempty, distinct, each⟩ := harmless
    exact ⟨nonempty, distinct, fun value member => (each value member).2.1,
      fun value member => (each value member).2.2⟩
  · intro rules
    obtain ⟨nonempty, distinct, valid, unreserved⟩ := rules
    exact ⟨nonempty, distinct, fun value member =>
      ⟨List.not_mem_nil, valid value member, unreserved value member⟩⟩

end Validation
end TypeGraph
