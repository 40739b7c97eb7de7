import TypeGraph.Proofs.Arena
import TypeGraph.Proofs.Grouping

/-! The groups in which fields are gathered. After any fields there is one group for each of their
names, with all fields of the name in their order, and the position of each group is known. What is
said of fields that share a name can therefore be said name by name. -/
namespace TypeGraph.Validation

variable {fields : List Field} {field : Field} {gathered : FieldGroups} {object : ObjectType}
  {name : String}

/-- The names of fields, each once, in the order of their first fields. -/
def fieldNames (fields : List Field) : List String := (fields.map (·.name)).eraseDups

/-- What is said of the fields of one name. -/
def sameName (object : ObjectType) (name : String) : List Diagnostic :=
  let group := object.fields.filter (·.name == name)
  if group.length ≤ 1 then []
  else
    let finding :=
      if group.any (·.isSystem) then Finding.reservedFieldName name
      else .duplicateFieldName name
    (group.filter (!·.isSystem)).map fun field => ⟨finding, field.location⟩

theorem fieldNames_concat : fieldNames (fields ++ [field]) =
    if field.name ∈ fieldNames fields then fieldNames fields
    else fieldNames fields ++ [field.name] := by
  simp only [fieldNames, List.map_append, List.map_cons, List.map_nil, List.mem_eraseDups]
  split
  case isTrue old => exact eraseDups_concat_of_mem old
  case isFalse new => exact eraseDups_concat_of_notMem new

namespace FieldGroups

/-- What has been gathered once the fields have been seen. -/
structure Gathers (gathered : FieldGroups) (fields : List Field) : Prop where
  groups : gathered.groups = (fieldNames fields).map fun name => fields.filter (·.name == name)
  positions : gathered.groupOf.Indexes (fieldNames fields)

theorem gathers_empty : empty.Gathers [] := ⟨rfl, .empty⟩

/-- A field of a known name joins the group of the name. -/
theorem Gathers.join (gathers : gathered.Gathers fields) {position : Nat}
    (found : gathered.groupOf.get? field.name = some position) :
    Gathers { gathered with groups := gathered.groups.modify position (· ++ [field]) }
      (fields ++ [field]) := by
  have stands := (gathers.positions _ _).mp found
  have names : fieldNames (fields ++ [field]) = fieldNames fields := by
    rw [fieldNames_concat, if_pos (List.mem_of_getElem? stands)]
  refine ⟨List.ext_getElem? fun other => ?_, names ▸ gathers.positions⟩
  rw [names, List.getElem?_modify, gathers.groups, List.getElem?_map, List.getElem?_map]
  cases here : (fieldNames fields)[other]? with
  | none => rfl
  | some name =>
    -- Only the group of the field's name grows, and the name stands nowhere else.
    have there := (gathers.positions _ _).mpr here
    have grows : position = other ↔ field.name = name := by
      constructor
      · rintro rfl
        exact Option.some.inj (stands.symm.trans here)
      · rintro rfl
        exact Option.some.inj (found.symm.trans there)
    by_cases same : field.name = name
    · simp [List.filter_append, grows.mpr same, same]
    · simp [List.filter_append, mt grows.mp same, same]

/-- A field of a new name opens a group behind the others. -/
theorem Gathers.start (gathers : gathered.Gathers fields)
    (missing : gathered.groupOf.get? field.name = none) :
    Gathers ⟨gathered.groups ++ [[field]],
      gathered.groupOf.insert field.name gathered.groups.length⟩ (fields ++ [field]) := by
  have fresh := gathers.positions.get?_eq_none_iff.mp missing
  have names : fieldNames (fields ++ [field]) = fieldNames fields ++ [field.name] := by
    rw [fieldNames_concat, if_neg fresh]
  constructor
  case groups =>
    have own : fields.filter (·.name == field.name) = [] := by
      refine List.filter_eq_nil_iff.mpr fun other member same => fresh ?_
      exact List.mem_eraseDups.mpr (List.mem_map.mpr ⟨other, member, beq_iff_eq.mp same⟩)
    have others : ∀ name ∈ fieldNames fields,
        (fields ++ [field]).filter (·.name == name) = fields.filter (·.name == name) := by
      intro name listed
      have apart : field.name ≠ name := fun same => fresh (same ▸ listed)
      simp [List.filter_append, apart]
    rw [names, List.map_append, List.map_congr_left others, ← gathers.groups]
    simp [List.filter_append, own]
  case positions =>
    have count : gathered.groups.length = (fieldNames fields).length := by
      rw [gathers.groups, List.length_map]
    rw [names, count]
    exact gathers.positions.push fresh

theorem Gathers.add (gathers : gathered.Gathers fields) (field : Field) :
    (gathered.add field).Gathers (fields ++ [field]) := by
  unfold FieldGroups.add
  split
  · next position found => exact gathers.join found
  · next missing => exact gathers.start missing

theorem gathers_foldl_add {before : List Field} (gathers : gathered.Gathers before) :
    (fields.foldl FieldGroups.add gathered).Gathers (before ++ fields) := by
  induction fields generalizing gathered before with
  | nil => rwa [List.append_nil]
  | cons field rest ih =>
    have next := ih (gathers.add field)
    rwa [List.append_assoc] at next

theorem gathers_ofFields : (ofFields fields).Gathers fields := gathers_foldl_add gathers_empty

end FieldGroups

/-- All fields of a group have its name. -/
theorem clash_filter : clash (object.fields.filter (·.name == name)) =
    ((object.fields.filter (·.name == name)).filter (!·.isSystem)).map fun field =>
      ⟨if (object.fields.filter (·.name == name)).any (·.isSystem) then .reservedFieldName name
        else .duplicateFieldName name, field.location⟩ := by
  refine List.map_congr_left fun field member => ?_
  obtain rfl : field.name = name := by
    simpa using (List.mem_filter.mp (List.mem_filter.mp member).1).2
  rfl

/-- Group by group, what is said is what is to be said name by name. -/
theorem duplicateFields_eq :
    duplicateFields object = (fieldNames object.fields).flatMap (sameName object) := by
  rw [duplicateFields, FieldGroups.gathers_ofFields.groups, flatMap_filter, List.flatMap_map]
  refine List.flatMap_congr fun name _ => ?_
  by_cases few : (object.fields.filter (·.name == name)).length ≤ 1
  · simp [sameName, few]
  · simp [sameName, few, clash_filter, Nat.lt_of_not_le few]

end TypeGraph.Validation
