import TypeGraph.Proofs.Harmless
import TypeGraph.Proofs.Inverses
import TypeGraph.Proofs.Registry

/-! The rules for fields, read as conditions on declarations. They look other types up, so they are
read where every declaration is kept and no type has a field name twice. -/
namespace TypeGraph.Validation

open Finding (Harmless)

theorem harmless_namedInverse {field : Field} {target : ObjectType} {name : String}
    (unique : target.UniqueFields) :
    Harmless (namedInverse field target name) ↔ ∃ other ∈ target.decl.fields,
      other.name = name ∧ other.isRelation = true ∧ other.typeName = field.owner ∧
        other.inverseOf = none := by
  have sole {decl : FieldDecl} (declared : decl ∈ target.decl.fields) :
      target.field? decl.name = some (.ofDecl target.name decl) :=
    unique.field?_eq_some_iff.mpr ⟨ObjectType.ofDecl_mem_fields declared, rfl⟩
  unfold namedInverse
  constructor
  · intro harmless
    cases found : target.field? name with
    | none => simp [found, Finding.severity] at harmless
    | some other =>
      obtain ⟨member, rfl⟩ := mem_of_field? found
      by_cases relation : other.isRelation = true
      · obtain ⟨decl, declared, rfl⟩ := ObjectType.declared_of_isRelation member relation
        by_cases back : (Field.ofDecl target.name decl).typeName = field.owner
        · have forward : decl.inverseOf = none := by
            simpa [sole declared, relation, back, Finding.severity, Field.inverseOf] using harmless
          exact ⟨decl, declared, rfl, relation, back, forward⟩
        · simp [sole declared, relation, back, Finding.severity] at harmless
      · simp [found, relation, Finding.severity] at harmless
  · intro agrees
    obtain ⟨decl, declared, rfl, relation, back, forward⟩ := agrees
    simp [sole declared, Field.isRelation, relation, Field.typeName, back, Field.inverseOf, forward]

variable {declarations : Declarations} {types : List TypeDef} {source target : ObjectType}
  {type : TypeDef} {decl : FieldDecl}

theorem harmless_inverses (unique : UniqueNames types) (member : source ∈ objectsOf types)
    (uniqueSource : source.UniqueFields) (aim : target ∈ objectsOf types)
    (uniqueTarget : target.UniqueFields) (declared : decl ∈ source.decl.fields)
    (forward : decl.inverseOf = none) :
    Harmless (inverses (.ofDecl source.name decl) target) ↔
      ∀ first ∈ target.decl.fields, ∀ second ∈ target.decl.fields,
        first.Inverts source.name decl.name → second.Inverts source.name decl.name →
          first = second := by
  have inverse_iff {candidate : Field} :
      candidate ∈ (Field.ofDecl source.name decl).inversesOn target ↔
        ∃ other ∈ target.decl.fields,
          other.Inverts source.name decl.name ∧ candidate = .ofDecl target.name other :=
    unique.mem_inversesOn_iff member uniqueSource aim declared forward
  have distinct : ((Field.ofDecl source.name decl).inversesOn target).Nodup :=
    (List.Nodup.of_map _ uniqueTarget).filter _
  have few : Harmless (inverses (.ofDecl source.name decl) target) ↔
      ((Field.ofDecl source.name decl).inversesOn target).length ≤ 1 := by
    simp [inverses, Finding.severity]
  rw [few, length_le_one_iff distinct]
  constructor
  · intro sole first here second there left right
    have same := sole _ (inverse_iff.mpr ⟨first, here, left, rfl⟩)
      _ (inverse_iff.mpr ⟨second, there, right, rfl⟩)
    exact congrArg Field.decl same
  · intro sole first here second there
    obtain ⟨left, leftHere, leftInverts, rfl⟩ := inverse_iff.mp here
    obtain ⟨right, rightHere, rightInverts, rfl⟩ := inverse_iff.mp there
    rw [sole left leftHere right rightHere leftInverts rightInverts]

section Targets
variable (keeps : Registry.Keeps types declarations.types)
  (found : findType? types decl.typeName = some type)
include keeps found

theorem hasRoot_iff {root : ObjectDecl} :
    declarations.HasRoot decl.typeName root ↔ type.root? = some ⟨.rootEntity, root⟩ := by
  rw [root?_eq_some_iff]
  exact (keeps.object_iff found).trans (and_iff_left rfl).symm

theorem harmless_reference :
    Harmless (reference type) ↔ ∃ root, declarations.HasRoot decl.typeName root := by
  simp only [hasRoot_iff keeps found]
  unfold reference
  cases aim : type.root? with
  | none => simp [Finding.severity]
  | some root =>
    obtain ⟨kind, body⟩ := root
    cases (root?_eq_some_iff.mp aim).2
    simp [Finding.severity]

theorem harmless_embedding {owner : String} :
    Harmless (embedding (.ofDecl owner decl) type) ↔
      ∀ kind target, .object kind target ∈ declarations.types →
        target.name = decl.typeName → kind.Embeds decl.isList := by
  simp only [← and_imp, keeps.object_iff found]
  cases type with
  | builtIn scalar => simp [embedding, TypeDef.kind]
  | declared body =>
    cases body with
    | scalar body => simp [embedding, TypeDef.kind, TypeDecl.kind]
    | enum body => simp [embedding, TypeDef.kind, TypeDecl.kind]
    | object kind body =>
      cases kind <;>
        simp [embedding, TypeDef.kind, TypeDecl.kind, ObjectKind.Embeds, Finding.severity,
          Field.isList]

variable (member : source ∈ objectsOf types)
  (uniqueFields : ∀ object ∈ objectsOf types, object.UniqueFields)
  (declared : decl ∈ source.decl.fields)
include member uniqueFields declared

theorem harmless_relation :
    Harmless (relation (findType? types) (.ofDecl source.name decl) type) ↔ source.kind = .rootEntity ∧
      ∃ root, declarations.HasRoot decl.typeName root ∧ decl.AgreesWith source.name root := by
  have here : findType? types source.name = some (.declared (.object source.kind source.decl)) :=
    keeps.findType?_declared (keeps.mem_objectsOf_iff.mp member)
  unfold relation
  rw [Finding.harmless_append, Finding.harmless_when]
  refine and_congr ?_ ?_
  · simp [here, TypeDef.root?, TypeDef.object?, Option.filter, ObjectType.isRoot, Finding.severity]
  · simp only [hasRoot_iff keeps found]
    cases aim : type.root? with
    | none => simp [Finding.severity]
    | some target =>
      obtain ⟨kind, root⟩ := target
      obtain ⟨rfl, rfl⟩ := root?_eq_some_iff.mp aim
      have aimed : (⟨.rootEntity, root⟩ : ObjectType) ∈ objectsOf types :=
        mem_objectsOf_iff.mpr (mem_of_findType? found).1
      have uniqueRoot := uniqueFields _ aimed
      simp only [Option.some.injEq, ObjectType.mk.injEq, true_and, exists_eq_left', Field.inverseOf,
        Field.decl_ofDecl, FieldDecl.AgreesWith]
      cases names : decl.inverseOf with
      | some inverse => exact harmless_namedInverse uniqueRoot
      | none =>
        exact harmless_inverses keeps.unique member (uniqueFields source member) aimed uniqueRoot
          declared names

theorem harmless_fieldTarget :
    Harmless (fieldTarget (findType? types) (.ofDecl source.name decl) type) ↔
      (decl.isRelation = true → source.kind = .rootEntity ∧
        ∃ root, declarations.HasRoot decl.typeName root ∧ decl.AgreesWith source.name root) ∧
      (decl.isRelation = false → decl.isReference = true →
        ∃ root, declarations.HasRoot decl.typeName root) ∧
      (decl.isRelation = false → decl.isReference = false →
        ∀ kind target, .object kind target ∈ declarations.types →
          target.name = decl.typeName → kind.Embeds decl.isList) := by
  unfold fieldTarget
  by_cases relation : decl.isRelation = true
  · simp [Field.isRelation, relation, harmless_relation keeps found member uniqueFields declared]
  · by_cases reference : decl.isReference = true
    · simp [Field.isRelation, Field.isReference, relation, reference,
        harmless_reference keeps found]
    · simp [Field.isRelation, Field.isReference, relation, reference,
        harmless_embedding keeps found]

end Targets

theorem harmless_fieldFindings_iff {field : Field} (declared : field.isSystem = false) :
    Harmless (fieldFindings (findType? types) field) ↔
      Identifier.isValid field.name = true ∧ (findType? types field.typeName).isSome = true ∧
      (field.isRelation = true → field.isReference = false) ∧
      (field.inverseOf.isSome = true → field.isRelation = true) ∧
      ∀ type, findType? types field.typeName = some type →
        Harmless (fieldTarget (findType? types) field type) := by
  simp only [fieldFindings, declared, Bool.false_eq_true, if_false, Finding.harmless_append,
    harmless_fieldName, Finding.harmless_when, Finding.severity, reduceCtorEq, imp_false, and_assoc]
  cases found : findType? types field.typeName with
  | none => simp
  | some type => simp

theorem harmless_fieldFindings (keeps : Registry.Keeps types declarations.types)
    (member : source ∈ objectsOf types)
    (uniqueFields : ∀ object ∈ objectsOf types, object.UniqueFields)
    (declared : decl ∈ source.decl.fields) :
    Harmless (fieldFindings (findType? types) (.ofDecl source.name decl)) ↔
      declarations.FieldWellFormed source.kind source.name decl := by
  rw [harmless_fieldFindings_iff rfl]
  constructor
  · intro harmless
    obtain ⟨name, resolved, exclusive, inverse, aim⟩ := harmless
    obtain ⟨type, found⟩ := Option.isSome_iff_exists.mp resolved
    obtain ⟨relation, reference, embedding⟩ :=
      (harmless_fieldTarget keeps found member uniqueFields declared).mp (aim type found)
    refine ⟨name, keeps.findType?_isSome_iff.mp resolved, exclusive, inverse, relation, ?_, embedding⟩
    intro points
    have plain : decl.isRelation = false := by
      cases relates : decl.isRelation with
      | false => rfl
      | true => exact absurd (points.symm.trans (exclusive relates)) (by simp)
    exact reference plain points
  · intro valid
    refine ⟨valid.name, keeps.findType?_isSome_iff.mpr valid.type, valid.exclusive, valid.inverse, ?_⟩
    intro type found
    exact (harmless_fieldTarget keeps found member uniqueFields declared).mpr
      ⟨valid.relation, fun _ => valid.reference, valid.embedding⟩

end TypeGraph.Validation
