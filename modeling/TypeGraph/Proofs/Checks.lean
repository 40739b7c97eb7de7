import TypeGraph.Validation
import TypeGraph.Proofs.Acceptance
import TypeGraph.Proofs.Dictionary
import TypeGraph.Proofs.Faults

/-! Every check finds exactly the faults of its rule. Checks that know their declaration also show
the finding at its place. -/
namespace TypeGraph

namespace Finding

variable {finding blamed : Finding} {location place : Option SourceLocation}

theorem mem_when_iff {condition : Bool} :
    finding ∈ when condition blamed ↔ condition = true ∧ finding = blamed := by
  cases condition <;> simp [when]

theorem mem_locate_iff {findings : List Finding} :
    ⟨finding, location⟩ ∈ locate place findings ↔ finding ∈ findings ∧ location = place := by
  simp [locate, eq_comm]

end Finding

/-- Earlier literals matter only as far as the value repeats one of them. -/
theorem ValueFault.of_mem_iff {place location : Option SourceLocation} {earlier others : List String}
    {decl : EnumValueDecl} {finding : Finding} (same : decl.value ∈ earlier ↔ decl.value ∈ others)
    (fault : ValueFault place earlier decl finding location) :
    ValueFault place others decl finding location := by
  cases fault with
  | repeated repeated => exact .repeated (same.mp repeated)
  | literal new fault => exact .literal (mt same.mpr new) fault

namespace Validation

open Finding (mem_when_iff mem_locate_iff)

variable {types : List TypeDef} {profiles : Dictionary ProfileDecl} {object root : ObjectType}
  {field : Field} {target : TypeDef} {name : String} {finding : Finding}
  {location place : Option SourceLocation}

theorem mem_typeName_iff : finding ∈ typeName name ↔ TypeNameFault name finding := by
  constructor
  · intro found
    unfold typeName at found
    split_ifs at found with empty invalid lower
    · cases List.mem_singleton.mp found
      exact .empty empty
    · cases List.mem_singleton.mp found
      exact .invalid empty (by simpa using invalid)
    · cases List.mem_singleton.mp found
      exact .lowerCase (by simpa using invalid) (by simpa using lower)
    · cases found
  · intro fault
    cases fault with
    | empty empty => simp [typeName, empty]
    | invalid named invalid => simp [typeName, named, invalid]
    | lowerCase valid lower =>
      have named : name ≠ "" := by
        rintro rfl
        cases valid
      simp [typeName, named, valid, lower]

theorem mem_fieldName_iff : finding ∈ fieldName name ↔ FieldNameFault name finding := by
  constructor
  · intro found
    unfold fieldName at found
    split_ifs at found with invalid upper
    · cases List.mem_singleton.mp found
      exact .invalid (by simpa using invalid)
    · cases List.mem_singleton.mp found
      exact .upperCase (by simpa using invalid) (by simpa using upper)
    · cases found
  · intro fault
    cases fault with
    | invalid invalid => simp [fieldName, invalid]
    | upperCase valid upper => simp [fieldName, valid, upper]

theorem mem_enumValue_iff {literal : String} :
    finding ∈ enumValue literal ↔ LiteralFault literal finding := by
  have reserved_iff : Identifier.isReservedLiteral literal = true ↔
      literal ∈ Identifier.reservedLiterals := by simp [Identifier.isReservedLiteral]
  constructor
  · intro found
    unfold enumValue at found
    split_ifs at found with reserved invalid lower
    · cases List.mem_singleton.mp found
      exact .reserved (reserved_iff.mp reserved)
    · cases List.mem_singleton.mp found
      exact .invalid (mt reserved_iff.mpr reserved) (by simpa using invalid)
    · cases List.mem_singleton.mp found
      exact .lowerCase (mt reserved_iff.mpr reserved) (by simpa using invalid) (by simpa using lower)
    · cases found
  · intro fault
    cases fault with
    | reserved reserved => simp [enumValue, reserved_iff.mpr reserved]
    | invalid unreserved invalid => simp [enumValue, mt reserved_iff.mp unreserved, invalid]
    | lowerCase unreserved valid lower =>
      simp [enumValue, mt reserved_iff.mp unreserved, valid, lower]

/-- What is found at one value, given the literals of those before it. -/
theorem mem_value_iff {seen : List String} {value : EnumValueDecl} :
    ⟨finding, location⟩ ∈ (if seen.contains value.value then
        [⟨.duplicateEnumValue value.value, value.location <|> place⟩]
      else Finding.locate value.location (enumValue value.value)) ↔
      ValueFault place seen value finding location := by
  constructor
  · intro found
    split_ifs at found with repeated
    · cases List.mem_singleton.mp found
      exact .repeated (by simpa using repeated)
    · obtain ⟨blamed, rfl⟩ := mem_locate_iff.mp found
      exact .literal (by simpa using repeated) (mem_enumValue_iff.mp blamed)
  · intro fault
    cases fault with
    | repeated repeated => simp [repeated]
    | literal new fault => simp [new, mem_locate_iff, mem_enumValue_iff, fault]

theorem mem_enumValues_iff {seen : List String} {values : List EnumValueDecl} :
    ⟨finding, location⟩ ∈ enumValues place seen values ↔
      ∃ earlier decl later, values = earlier ++ decl :: later ∧
        ValueFault place ((earlier.map (·.value)).reverse ++ seen) decl finding location := by
  -- The scan puts every literal in front of those seen, so they stand in reverse.
  induction values generalizing seen with
  | nil => simp [enumValues]
  | cons value rest ih =>
    rw [enumValues, List.mem_append, mem_value_iff, ih]
    constructor
    · rintro (fault | ⟨earlier, decl, later, rfl, fault⟩)
      · exact ⟨[], value, rest, rfl, fault⟩
      · exact ⟨value :: earlier, decl, later, rfl, by simpa using fault⟩
    · rintro ⟨earlier, decl, later, split, fault⟩
      cases earlier with
      | nil =>
        cases split
        exact .inl fault
      | cons first earlier =>
        cases split
        exact .inr ⟨earlier, decl, later, rfl, by simpa using fault⟩

theorem mem_type_enum_iff {decl : EnumDecl} :
    ⟨finding, location⟩ ∈ type (findType? types) profiles (.declared (.enum decl)) ↔
    TypeFault types profiles (.enum decl) finding ∧ location = decl.location ∨
      ∃ earlier value later, decl.values = earlier ++ value :: later ∧
        ValueFault decl.location (earlier.map (·.value)) value finding location := by
  have values : ⟨finding, location⟩ ∈ enumValues decl.location [] decl.values ↔
      ∃ earlier value later, decl.values = earlier ++ value :: later ∧
        ValueFault decl.location (earlier.map (·.value)) value finding location := by
    rw [mem_enumValues_iff]
    refine exists_congr fun earlier => exists_congr fun value => exists_congr fun later =>
      and_congr_right fun _ => ?_
    have same : value.value ∈ (earlier.map (·.value)).reverse ++ [] ↔
        value.value ∈ earlier.map (·.value) := by simp
    exact ⟨.of_mem_iff same, .of_mem_iff same.symm⟩
  have own : TypeFault types profiles (.enum decl) finding ↔
      finding ∈ typeName decl.name ∨
        finding ∈ Finding.when decl.values.isEmpty (.noEnumValues decl.name) := by
    rw [mem_typeName_iff, mem_when_iff, List.isEmpty_iff]
    constructor
    · intro fault
      cases fault with
      | name fault => exact .inl fault
      | noValues empty => exact .inr ⟨empty, rfl⟩
    · rintro (fault | ⟨empty, rfl⟩)
      · exact .name fault
      · exact .noValues empty
  rw [type, enum, List.mem_append, List.mem_append, mem_locate_iff, mem_locate_iff, values, own,
    or_and_right]

theorem mem_type_scalar_iff {decl : ScalarDecl} :
    ⟨finding, location⟩ ∈ type (findType? types) profiles (.declared (.scalar decl)) ↔
    TypeFault types profiles (.scalar decl) finding ∧ location = decl.location := by
  rw [type, mem_locate_iff, mem_typeName_iff]
  refine and_congr_left fun _ => ⟨fun fault => .name fault, fun fault => ?_⟩
  cases fault with
  | name fault => exact fault

/-! Findings about object types. -/

theorem mem_keyField_iff :
    finding ∈ keyField (findType? types) root name ↔ KeyFault types root name finding := by
  constructor
  · intro blamed
    unfold keyField at blamed
    split at blamed
    · next missing =>
      cases List.mem_singleton.mp blamed
      exact .unknown missing
    · next field found =>
      rcases List.mem_append.mp blamed with single | aim
      · obtain ⟨list, rfl⟩ := mem_when_iff.mp single
        exact .list found list
      · split at aim
        · cases aim
        · next type leads =>
          obtain ⟨structured, rfl⟩ := mem_when_iff.mp aim
          exact .structured found leads structured
  · intro fault
    cases fault with
    | unknown missing => simp [keyField, missing]
    | list found list => simp [keyField, found, list, mem_when_iff]
    | structured found leads structured => simp [keyField, found, leads, structured, mem_when_iff]

theorem mem_rootFindings_iff :
    finding ∈ rootFindings (findType? types) profiles root ↔
      (∃ name, root.decl.keyFieldName = some name ∧ KeyFault types root name finding) ∨
      ∃ name, root.decl.permissionProfile = some name ∧ profiles.get? name = none ∧
        finding = .unknownProfile name := by
  unfold rootFindings
  rw [List.mem_append]
  refine or_congr ?_ ?_
  · cases keyed : root.decl.keyFieldName <;> simp [mem_keyField_iff]
  · cases ruled : root.decl.permissionProfile <;> simp [mem_when_iff, Dictionary.contains]

theorem mem_objectFindings_iff : finding ∈ objectFindings object ↔
    TypeNameFault object.name finding ∨
    (∃ segment ∈ object.namespacePath, Identifier.isValid segment = false ∧
      finding = .invalidNamespaceSegment segment object.name) ∨
    (object.kind ≠ .rootEntity ∧ object.decl.keyFieldName ≠ none ∧
      finding = .misplacedKeyField object.name) ∨
    (object.kind ≠ .rootEntity ∧ object.decl.permissionProfile ≠ none ∧
      finding = .misplacedProfile object.name) ∨
    object.decl.fields = [] ∧ finding = .noFields object.name := by
  simp only [objectFindings, List.mem_append, mem_typeName_iff, List.mem_map, List.mem_filter,
    mem_when_iff, Bool.and_eq_true, ObjectType.isRoot, Bool.not_eq_true', decide_eq_false_iff_not,
    ← Option.ne_none_iff_isSome, List.isEmpty_iff, and_assoc, or_assoc, eq_comm (b := finding)]

/-- What is found before the fields and what is found behind them are the faults of the type. -/
theorem typeFault_object_iff {kind : ObjectKind} {decl : ObjectDecl} :
    TypeFault types profiles (.object kind decl) finding ↔
      finding ∈ objectFindings ⟨kind, decl⟩ ∨
        finding ∈
          if kind = .rootEntity then rootFindings (findType? types) profiles ⟨kind, decl⟩ else [] := by
  rw [mem_objectFindings_iff]
  constructor
  · intro fault
    cases fault with
    | name fault => exact .inl (.inl fault)
    | object fault =>
      cases fault with
      | segment member invalid => exact .inl (.inr (.inl ⟨_, member, invalid, rfl⟩))
      | misplacedKey inner keyed => exact .inl (.inr (.inr (.inl ⟨inner, keyed, rfl⟩)))
      | misplacedProfile inner ruled => exact .inl (.inr (.inr (.inr (.inl ⟨inner, ruled, rfl⟩))))
      | noFields empty => exact .inl (.inr (.inr (.inr (.inr ⟨empty, rfl⟩))))
      | key root keyed fault =>
        rw [if_pos root]
        exact .inr (mem_rootFindings_iff.mpr (.inl ⟨_, keyed, fault⟩))
      | unknownProfile root ruled missing =>
        rw [if_pos root]
        exact .inr (mem_rootFindings_iff.mpr (.inr ⟨_, ruled, missing, rfl⟩))
  · rintro ((fault | ⟨segment, member, invalid, rfl⟩ | ⟨inner, keyed, rfl⟩ | ⟨inner, ruled, rfl⟩
      | ⟨empty, rfl⟩) | found)
    · exact .name fault
    · exact .object (.segment member invalid)
    · exact .object (.misplacedKey inner keyed)
    · exact .object (.misplacedProfile inner ruled)
    · exact .object (.noFields empty)
    · split_ifs at found with root
      · rcases mem_rootFindings_iff.mp found with ⟨name, keyed, fault⟩ | ⟨name, ruled, missing, rfl⟩
        · exact .object (.key root keyed fault)
        · exact .object (.unknownProfile root ruled missing)
      · cases found

/-! Findings about fields. Those of one name are told together, but each at its own place. -/

theorem any_isSystem_iff : (object.fields.filter (·.name == name)).any (·.isSystem) = true ↔
    name ∈ object.systemFields.map (·.name) := by
  simp only [List.any_filter, List.any_eq_true, Bool.and_eq_true, beq_iff_eq, List.mem_map]
  constructor
  · rintro ⟨field, member, rfl, system⟩
    rcases ObjectType.mem_fields_iff.mp member with fixed | ⟨decl, _, rfl⟩
    · exact ⟨field, fixed, rfl⟩
    · cases system
  · rintro ⟨field, fixed, rfl⟩
    obtain ⟨name, _, scalar, rfl⟩ := ObjectType.of_mem_systemFields fixed
    exact ⟨_, ObjectType.mem_fields_iff.mpr (.inl fixed), rfl, rfl⟩

theorem mem_declared_iff :
    field ∈ (object.fields.filter (·.name == name)).filter (!·.isSystem) ↔
      ∃ decl ∈ object.decl.fields, decl.name = name ∧ field = .ofDecl object.name decl := by
  rw [List.filter_comm, ObjectType.filter_not_isSystem]
  simp only [ObjectType.userFields, List.mem_filter, List.mem_map, beq_iff_eq]
  constructor
  · rintro ⟨⟨decl, listed, rfl⟩, rfl⟩
    exact ⟨decl, listed, rfl, rfl⟩
  · rintro ⟨decl, listed, rfl, rfl⟩
    exact ⟨⟨decl, listed, rfl⟩, rfl⟩

/-- Several fields have the name if several declared ones do, or one and a system field. -/
theorem several_iff {decl : FieldDecl} (listed : decl ∈ object.decl.fields) :
    1 < (object.fields.filter (·.name == decl.name)).length ↔
      decl.name ∈ object.systemFields.map (·.name) ∨
        1 < (object.decl.fields.filter (·.name == decl.name)).length := by
  have declared : object.userFields.filter (·.name == decl.name) =
      (object.decl.fields.filter (·.name == decl.name)).map (.ofDecl object.name) := by
    simp [ObjectType.userFields, List.filter_map, Function.comp_def]
  have some : 0 < (object.decl.fields.filter (·.name == decl.name)).length :=
    List.length_pos_of_mem (List.mem_filter.mpr ⟨listed, by simp⟩)
  have fixed : 0 < (object.systemFields.filter (·.name == decl.name)).length ↔
      decl.name ∈ object.systemFields.map (·.name) := by
    simp [List.length_pos_iff_exists_mem]
  have few := object.length_filter_systemFields_le_one decl.name
  rw [ObjectType.fields, List.filter_append, List.length_append, declared, List.length_map, ← fixed]
  omega

/-- A declared field is at fault if several fields have its name, and a system field among them
decides what for. -/
theorem clashFault_iff {decl : FieldDecl} (listed : decl ∈ object.decl.fields) :
    ClashFault object decl finding ↔
      1 < (object.fields.filter (·.name == decl.name)).length ∧ finding =
        if (object.fields.filter (·.name == decl.name)).any (·.isSystem) then
          Finding.reservedFieldName decl.name
        else .duplicateFieldName decl.name := by
  rw [several_iff listed]
  constructor
  · intro fault
    cases fault with
    | reserved taken => exact ⟨.inl taken, by rw [if_pos (any_isSystem_iff.mpr taken)]⟩
    | duplicate free several =>
      exact ⟨.inr several, by rw [if_neg (mt any_isSystem_iff.mp free)]⟩
  · rintro ⟨several, rfl⟩
    split_ifs with system
    · exact .reserved (any_isSystem_iff.mp system)
    · have free := mt any_isSystem_iff.mpr system
      exact .duplicate free (several.resolve_left free)

theorem mem_sameName_iff : ⟨finding, location⟩ ∈ sameName object name ↔
    ∃ decl ∈ object.decl.fields, decl.name = name ∧ ClashFault object decl finding ∧
      location = decl.location := by
  constructor
  · intro found
    simp only [sameName] at found
    split at found
    · cases found
    · next few =>
      have several := Nat.lt_of_not_le few
      obtain ⟨field, member, same⟩ := List.mem_map.mp found
      obtain ⟨decl, listed, rfl, rfl⟩ := mem_declared_iff.mp member
      obtain ⟨rfl, rfl⟩ := Diagnostic.mk.inj same
      exact ⟨decl, listed, rfl, (clashFault_iff listed).mpr ⟨several, rfl⟩, rfl⟩
  · rintro ⟨decl, listed, rfl, fault, rfl⟩
    obtain ⟨several, rfl⟩ := (clashFault_iff listed).mp fault
    rw [sameName, if_neg (Nat.not_le_of_lt several)]
    exact List.mem_map.mpr ⟨_, mem_declared_iff.mpr ⟨decl, listed, rfl, rfl⟩, rfl⟩

theorem mem_duplicateFields_iff : ⟨finding, location⟩ ∈ duplicateFields object ↔
    ∃ decl ∈ object.decl.fields, ClashFault object decl finding ∧ location = decl.location := by
  simp only [duplicateFields_eq, List.mem_flatMap, mem_sameName_iff]
  constructor
  · rintro ⟨_, _, decl, listed, rfl, fault⟩
    exact ⟨decl, listed, fault⟩
  · rintro ⟨decl, listed, fault⟩
    have used : decl.name ∈ fieldNames object.fields := by
      rw [fieldNames, List.mem_eraseDups]
      exact List.mem_map_of_mem (ObjectType.ofDecl_mem_fields listed)
    exact ⟨decl.name, used, decl, listed, rfl, fault⟩

theorem mem_namedInverse_iff {inverse : String} :
    finding ∈ namedInverse field root inverse ↔ InverseFault field root inverse finding := by
  constructor
  · intro blamed
    simp only [namedInverse] at blamed
    split at blamed
    · next missing =>
      cases List.mem_singleton.mp blamed
      exact .unknown missing
    · next other found =>
      split_ifs at blamed with plain apart
      · cases List.mem_singleton.mp blamed
        exact .noRelation found (by simpa using plain)
      · cases List.mem_singleton.mp blamed
        exact .elsewhere found (by simpa using plain) (by simpa using apart)
      · obtain ⟨names, rfl⟩ := mem_when_iff.mp blamed
        exact .ofInverse found (by simpa using plain) (by simpa using apart)
          (Option.ne_none_iff_isSome.mpr names)
  · intro fault
    cases fault with
    | unknown missing => simp [namedInverse, missing]
    | noRelation found plain => simp [namedInverse, found, plain]
    | elsewhere found relation apart => simp [namedInverse, found, relation, apart]
    | ofInverse found relation back names =>
      have names := Option.ne_none_iff_isSome.mp names
      simp [namedInverse, found, relation, back, names, mem_when_iff]

theorem mem_relation_iff (relates : field.isRelation = true) :
    finding ∈ relation (findType? types) field target ↔ TargetFault types field target finding := by
  constructor
  · intro blamed
    rcases List.mem_append.mp blamed with source | aim
    · obtain ⟨outside, rfl⟩ := mem_when_iff.mp source
      exact .relationOutsideRoot relates (Option.isNone_iff_eq_none.mp outside)
    · split at aim
      · next leaf =>
        cases List.mem_singleton.mp aim
        exact .relationTarget relates leaf
      · next root aimed =>
        split at aim
        · next inverse names => exact .inverse relates aimed names (mem_namedInverse_iff.mp aim)
        · next forward =>
          obtain ⟨several, rfl⟩ := mem_when_iff.mp aim
          exact .severalInverses relates aimed forward (by simpa using several)
  · intro fault
    cases fault with
    | relationOutsideRoot _ outside => simp [relation, outside, mem_when_iff]
    | relationTarget _ leaf => simp [relation, leaf]
    | inverse _ aimed names fault =>
      simp [relation, aimed, names, mem_namedInverse_iff.mpr fault]
    | severalInverses _ aimed forward several =>
      simp [relation, aimed, forward, inverses, mem_when_iff, several]
    | referenceTarget plain | referenceWithoutKey plain | embeddedRoot plain | childOutsideList plain
    | extensionInList plain => cases plain.symm.trans relates

theorem mem_reference_iff (plain : field.isRelation = false) (points : field.isReference = true) :
    finding ∈ reference target ↔ TargetFault types field target finding := by
  constructor
  · intro blamed
    unfold reference at blamed
    split at blamed
    · next leaf =>
      cases List.mem_singleton.mp blamed
      exact .referenceTarget plain points leaf
    · next root aimed =>
      obtain ⟨keyless, rfl⟩ := mem_when_iff.mp blamed
      exact .referenceWithoutKey plain points aimed (Option.isNone_iff_eq_none.mp keyless)
  · intro fault
    cases fault with
    | referenceTarget _ _ leaf => simp [reference, leaf]
    | referenceWithoutKey _ _ aimed keyless => simp [reference, aimed, keyless, mem_when_iff]
    | relationOutsideRoot relates | relationTarget relates | inverse relates
    | severalInverses relates => cases plain.symm.trans relates
    | embeddedRoot _ embeds | childOutsideList _ embeds | extensionInList _ embeds =>
      cases embeds.symm.trans points

theorem mem_embedding_iff (plain : field.isRelation = false) (embeds : field.isReference = false) :
    finding ∈ embedding field target ↔ TargetFault types field target finding := by
  constructor
  · intro blamed
    unfold embedding at blamed
    split at blamed
    · next kind =>
      cases List.mem_singleton.mp blamed
      exact .embeddedRoot plain embeds kind
    · next kind =>
      obtain ⟨single, rfl⟩ := mem_when_iff.mp blamed
      exact .childOutsideList plain embeds kind (by simpa using single)
    · next kind =>
      obtain ⟨list, rfl⟩ := mem_when_iff.mp blamed
      exact .extensionInList plain embeds kind list
    all_goals cases blamed
  · intro fault
    cases fault with
    | embeddedRoot _ _ kind => simp [embedding, kind]
    | childOutsideList _ _ kind single => simp [embedding, kind, single, mem_when_iff]
    | extensionInList _ _ kind list => simp [embedding, kind, list, mem_when_iff]
    | relationOutsideRoot relates | relationTarget relates | inverse relates
    | severalInverses relates => cases plain.symm.trans relates
    | referenceTarget _ points | referenceWithoutKey _ points => cases embeds.symm.trans points

theorem mem_fieldTarget_iff :
    finding ∈ fieldTarget (findType? types) field target ↔ TargetFault types field target finding := by
  unfold fieldTarget
  split_ifs with relates points
  · exact mem_relation_iff relates
  · exact mem_reference_iff (by simpa using relates) points
  · exact mem_embedding_iff (by simpa using relates) (by simpa using points)

/-- Beside the names that they share, fields are checked one by one. -/
theorem fieldFault_iff {decl : FieldDecl} : FieldFault types object decl finding ↔
    ClashFault object decl finding ∨
      finding ∈ fieldFindings (findType? types) (.ofDecl object.name decl) := by
  have declared : (Field.ofDecl object.name decl).isSystem = false := rfl
  constructor
  · intro fault
    cases fault with
    | clash fault => exact .inl fault
    | name fault => exact .inr (by simp [fieldFindings, declared, mem_fieldName_iff, fault])
    | unknownType missing =>
      exact .inr (by simp [fieldFindings, declared, Field.typeName, missing, mem_when_iff])
    | relationAndReference relation reference =>
      exact .inr (by simp [fieldFindings, declared, Field.isRelation, Field.isReference, relation,
        reference, mem_when_iff, Field.qualifiedName])
    | misplacedInverse names plain =>
      have names := Option.ne_none_iff_isSome.mp names
      exact .inr (by simp [fieldFindings, declared, Field.isRelation, Field.inverseOf, names, plain,
        mem_when_iff])
    | target found fault =>
      exact .inr (by simp [fieldFindings, declared, Field.typeName, found, mem_fieldTarget_iff, fault])
  · rintro (fault | found)
    · exact .clash fault
    · simp only [fieldFindings, declared, Bool.false_eq_true, if_false, List.mem_append,
        mem_fieldName_iff, mem_when_iff, Option.isNone_iff_eq_none, Bool.and_eq_true,
        Bool.not_eq_true', ← Option.ne_none_iff_isSome] at found
      rcases found with (((fault | ⟨missing, rfl⟩) | ⟨⟨relation, reference⟩, rfl⟩)
        | ⟨⟨names, plain⟩, rfl⟩) | aim
      · exact .name fault
      · exact .unknownType missing
      · exact .relationAndReference relation reference
      · exact .misplacedInverse names plain
      · split at aim
        · cases aim
        · next target found => exact .target found (mem_fieldTarget_iff.mp aim)

theorem field_of_mem_systemFields {scope : Scope} (member : field ∈ object.systemFields) :
    Validation.field scope field = [] := by
  obtain ⟨name, _, scalar, rfl⟩ := ObjectType.of_mem_systemFields member
  rfl

theorem mem_type_object_iff {kind : ObjectKind} {decl : ObjectDecl} :
    ⟨finding, location⟩ ∈ type (findType? types) profiles (.declared (.object kind decl)) ↔
      TypeFault types profiles (.object kind decl) finding ∧ location = decl.location ∨
      ∃ field ∈ decl.fields, FieldFault types ⟨kind, decl⟩ field finding ∧
        location = field.location := by
  have fields : ⟨finding, location⟩ ∈
        (ObjectType.fields ⟨kind, decl⟩).flatMap (Validation.field (findType? types)) ↔
      ∃ field ∈ decl.fields,
        finding ∈ fieldFindings (findType? types) (.ofDecl decl.name field) ∧
          location = field.location := by
    rw [List.mem_flatMap]
    constructor
    · rintro ⟨field, owned, found⟩
      rcases ObjectType.mem_fields_iff.mp owned with system | ⟨decl, listed, rfl⟩
      · rw [field_of_mem_systemFields system] at found
        cases found
      · exact ⟨decl, listed, mem_locate_iff.mp found⟩
    · rintro ⟨field, listed, found⟩
      exact ⟨_, ObjectType.ofDecl_mem_fields listed, mem_locate_iff.mpr found⟩
  have root :
      (if kind = .rootEntity then rootFindings (findType? types) profiles ⟨kind, decl⟩ else []) =
        if ObjectType.isRoot ⟨kind, decl⟩ then
          rootFindings (findType? types) profiles ⟨kind, decl⟩ else [] := by
    simp [ObjectType.isRoot]
  simp only [type, objectType, List.mem_append, mem_locate_iff, mem_duplicateFields_iff, fields,
    typeFault_object_iff, fieldFault_iff, root, ObjectType.location, ObjectType.name]
  constructor
  · rintro (((found | ⟨field, listed, fault, here⟩) | ⟨field, listed, found, here⟩) | found)
    · exact .inl ⟨.inl found.1, found.2⟩
    · exact .inr ⟨field, listed, .inl fault, here⟩
    · exact .inr ⟨field, listed, .inr found, here⟩
    · exact .inl ⟨.inr found.1, found.2⟩
  · rintro (⟨first | last, here⟩ | ⟨field, listed, fault | found, here⟩)
    · exact .inl (.inl (.inl ⟨first, here⟩))
    · exact .inr ⟨last, here⟩
    · exact .inl (.inl (.inr ⟨field, listed, fault, here⟩))
    · exact .inl (.inr ⟨field, listed, found, here⟩)

/-! Findings about labels. -/

theorem mem_bundle_iff {bundle : Bundle} :
    ⟨finding, location⟩ ∈ Validation.bundle (findType? types) bundle ↔
    LabelFault types bundle finding ∧ location = bundle.location := by
  rw [Validation.bundle, mem_locate_iff]
  refine and_congr_left fun _ => ?_
  simp only [List.mem_flatMap, Prod.exists, ← Dictionary.get?_eq_some_iff]
  constructor
  · rintro ⟨name, labels, labelled, found⟩
    unfold typeLabels at found
    split at found
    · next missing =>
      cases List.mem_singleton.mp found
      exact .type labelled missing
    · next type here =>
      simp only [List.mem_append, List.mem_map, List.mem_filter, Bool.not_eq_true',
        Option.isSome_eq_false_iff, Option.isNone_iff_eq_none] at found
      rcases found with ⟨field, ⟨member, missing⟩, rfl⟩ | ⟨value, ⟨member, missing⟩, rfl⟩
      · exact .field labelled here member missing
      · exact .value labelled here member missing
  · intro fault
    cases fault with
    | type labelled missing => exact ⟨_, _, labelled, by simp [typeLabels, missing]⟩
    | field labelled here member missing =>
      exact ⟨_, _, labelled, by simpa [typeLabels, here, member] using missing⟩
    | value labelled here member missing =>
      exact ⟨_, _, labelled, by simpa [typeLabels, here, member] using missing⟩

theorem mem_profile_iff {profile : ProfileDecl} :
    ⟨finding, location⟩ ∈ Validation.profile name profile ↔
      (∃ permission ∈ profile.permissions, permission.roles = []) ∧ finding = .noRoles name ∧
        location = profile.location := by
  simp [Validation.profile, mem_locate_iff, mem_when_iff, and_assoc]

end Validation

end TypeGraph
