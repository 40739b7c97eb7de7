import TypeGraph.Proofs.Checks
import TypeGraph.Proofs.Grouping

/-! How validation tells of fields that share a name. It gathers the fields in groups, name by name, but
what it finds can be said field by field: every declared field whose name another field has is blamed
once, at its own place, and no system field ever is. -/
namespace TypeGraph

variable {object : ObjectType} {field : Field} {name : String}

namespace ObjectType
variable (object)

/-- At least two fields of the type, its system fields among them, have the field's name. -/
def SharesName (field : Field) : Prop := 2 ≤ (object.fields.map (·.name)).count field.name

instance : DecidablePred object.SharesName := fun _ => inferInstanceAs (Decidable (_ ≤ _))

/-- The declared fields that share their names, as they are declared. -/
def clashing : List Field := object.userFields.filter (object.SharesName ·)

/-- The position of the first field that has the name. -/
def firstPosition (name : String) : Nat := (object.fields.map (·.name)).idxOf name

/-- What is wrong with a declared field that shares its name: the name is reserved if a system field
has it, and otherwise a duplicate. -/
def clash (field : Field) : Diagnostic where
  finding :=
    if field.name ∈ object.systemFields.map (·.name) then .reservedFieldName field.name
    else .duplicateFieldName field.name
  location := field.location

/-- The declared fields that share their names, each once. They stand in the order in which the names
come up first, and those of one name stand as they are declared. -/
structure ListsClashing (told : List Field) : Prop where
  once : told.Perm object.clashing
  ordered : told.Pairwise fun first second =>
    object.firstPosition first.name ≤ object.firstPosition second.name
  declared : ∀ name, told.filter (·.name == name) = object.clashing.filter (·.name == name)

variable {object}

theorem count_names : (object.fields.map (·.name)).count name =
    (object.fields.filter (·.name == name)).length := by
  simp only [List.count, List.countP_eq_length_filter, List.filter_map, List.length_map,
    Function.comp_def]

theorem severity_clash : (object.clash field).finding.severity = .error := by
  unfold clash
  split <;> rfl

end ObjectType

namespace Validation

open ObjectType (clashing SharesName count_names filter_not_isSystem)

/-- The fields of one name are told what each of them would be told alone. -/
theorem sameName_eq : sameName object name =
    (object.clashing.filter (·.name == name)).map object.clash := by
  have declared : (object.fields.filter (·.name == name)).filter (!·.isSystem) =
      object.userFields.filter (·.name == name) := by
    rw [List.filter_comm, filter_not_isSystem]
  have shares (field : Field) (member : field ∈ object.userFields.filter (·.name == name)) :
      object.SharesName field ↔ ¬(object.fields.filter (·.name == name)).length ≤ 1 := by
    obtain rfl : field.name = name := by simpa using (List.mem_filter.mp member).2
    rw [SharesName, count_names]
    omega
  rw [clashing, List.filter_comm, sameName]
  split
  case isTrue few =>
    have none : (object.userFields.filter (·.name == name)).filter (object.SharesName ·) = [] := by
      refine List.filter_eq_nil_iff.mpr fun field member => ?_
      simpa [shares field member] using few
    rw [none, List.map_nil]
  case isFalse several =>
    have all : (object.userFields.filter (·.name == name)).filter (object.SharesName ·) =
        object.userFields.filter (·.name == name) := by
      refine List.filter_eq_self.mpr fun field member => ?_
      simpa [shares field member] using several
    rw [declared, all]
    refine List.map_congr_left fun field member => ?_
    obtain rfl : field.name = name := by simpa using (List.mem_filter.mp member).2
    simp only [ObjectType.clash, any_isSystem_iff]

theorem clashing_eq_nil (unique : object.UniqueFields) : object.clashing = [] := by
  refine List.filter_eq_nil_iff.mpr fun field _ shares => ?_
  have twice : 2 ≤ (object.fields.map (·.name)).count field.name := of_decide_eq_true shares
  exact absurd (List.nodup_iff_count_le_one.mp unique field.name) (Nat.not_le_of_lt twice)

/-- Gathered name by name, the fields that share their names are all there. -/
theorem listsClashing_gathered (object : ObjectType) : object.ListsClashing
    ((fieldNames object.fields).flatMap fun name => object.clashing.filter (·.name == name)) := by
  have distinct : (fieldNames object.fields).Nodup := nodup_eraseDups _
  have named {field : Field} (member : field ∈ object.clashing) :
      field.name ∈ fieldNames object.fields := by
    have owned : field ∈ object.fields := List.mem_append_right _ (List.mem_filter.mp member).1
    exact List.mem_eraseDups.mpr (List.mem_map_of_mem owned)
  have same {field : Field} {name : String} (member : field ∈ object.clashing.filter (·.name == name)) :
      field.name = name := by
    simpa using (List.mem_filter.mp member).2
  constructor
  case once => exact flatMap_filter_perm distinct fun field member => named member
  case ordered =>
    refine List.pairwise_flatMap.mpr ⟨fun name _ => ?_, ?_⟩
    · refine List.pairwise_of_forall_mem_list fun first left second right => ?_
      rw [same left, same right]
    · refine (sorted_eraseDups _).imp fun {first second} less => ?_
      intro field left other right
      rw [same left, same right]
      exact Nat.le_of_lt less
  case declared =>
    intro name
    exact filter_flatMap_filter distinct (fun field member => named member) name

/-- Every declared field that shares its name is told so, once and at its place, and nothing else is
said. So nothing is said exactly where no two fields have one name. -/
theorem clashes_told_in_turn (object : ObjectType) :
    (∃ told, object.ListsClashing told ∧ duplicateFields object = told.map object.clash) ∧
      (∀ diagnostic ∈ duplicateFields object, diagnostic.finding.severity = .error) ∧
      (duplicateFields object = [] ↔ object.UniqueFields) := by
  have gathered := listsClashing_gathered object
  have told : duplicateFields object = ((fieldNames object.fields).flatMap fun name =>
      object.clashing.filter (·.name == name)).map object.clash := by
    simp only [duplicateFields_eq, List.map_flatMap, ← sameName_eq]
  refine ⟨⟨_, gathered, told⟩, ?_, ?_, ?_⟩
  · intro diagnostic member
    obtain ⟨field, _, rfl⟩ := List.mem_map.mp (told ▸ member)
    exact ObjectType.severity_clash
  · intro silent
    refine harmless_duplicateFields.mp ?_
    simp [silent, Diagnostic.Harmless]
  · intro unique
    have none := (gathered.once.trans (List.Perm.of_eq (clashing_eq_nil unique))).eq_nil
    rw [told, none, List.map_nil]

/-- The name `id` comes up first, with the system field, and only the declared field is blamed. -/
example : (duplicateFields ⟨.rootEntity, { name := "Country", fields := [
      { name := "code", typeName := "String" }, { name := "id", typeName := "String" },
      { name := "code", typeName := "Int" }] }⟩).map (·.finding) =
    [.reservedFieldName "id", .duplicateFieldName "code", .duplicateFieldName "code"] := by
  decide +kernel

end Validation
end TypeGraph
