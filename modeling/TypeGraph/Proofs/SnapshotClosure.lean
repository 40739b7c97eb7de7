import TypeGraph.View
import TypeGraph.Proofs.Endpoints
import TypeGraph.Proofs.Namespaces

/-! Snapshots are closed: whatever type, field or namespace a view names stands in the same snapshot.
Nothing is asked of the declarations for that; if they are accepted, every field has a kind besides,
and every key is a field with a single leaf value. -/
namespace TypeGraph

namespace Snapshot

/-- The views of object types. -/
def objects (snapshot : Snapshot) : List ObjectView := snapshot.types.filterMap (·.object?)

/-- An object type of the first name shows a relation field of the second name, which leads to a type
of the third. -/
def HasRelation (snapshot : Snapshot) (owner name target : String) : Prop :=
  ∃ object ∈ snapshot.objects, object.name = owner ∧
    ∃ field ∈ object.fields, field.name = name ∧ field.isRelation = true ∧ field.typeName = target

/-- Every name in a view is the name of something that the snapshot shows. -/
structure Closed (snapshot : Snapshot) : Prop where
  names : (snapshot.types.map (·.name)).Nodup
  /-- A field has the kind of the type that it names, and none if there is no such type. -/
  kinds : ∀ object ∈ snapshot.objects, ∀ field ∈ object.fields, ∀ kind,
    field.typeKind = some kind ↔
      ∃ type ∈ snapshot.types, type.name = field.typeName ∧ type.kind = kind
  keys : ∀ view name, .rootEntity view (some name) ∈ snapshot.types →
    ∃ field ∈ view.fields, field.name = name
  starts : ∀ relation ∈ snapshot.relations,
    snapshot.HasRelation relation.fromType relation.fromField relation.toType
  targets : ∀ relation ∈ snapshot.relations,
    ∃ object ∈ snapshot.objects, object.name = relation.toType
  backs : ∀ relation ∈ snapshot.relations, ∀ name, relation.toField = some name →
    snapshot.HasRelation relation.toType name relation.fromType
  /-- The namespaces are the root and all that lie on the way to an object type. -/
  namespaces : ∀ path, path ∈ snapshot.namespaces.map (·.path) ↔
    path = [] ∨ ∃ object ∈ snapshot.objects, path <+: object.namespacePath

/-- What declarations without errors add: no field is without a kind, and root entities show the keys
that they declare, each of which is a field with a single leaf value. -/
structure Settled (snapshot : Snapshot) (declarations : Declarations) : Prop where
  kinds : ∀ object ∈ snapshot.objects, ∀ field ∈ object.fields, field.typeKind ≠ none
  keys : ∀ name key, (∃ view, .rootEntity view key ∈ snapshot.types ∧ view.name = name) ↔
    ∃ decl, declarations.HasRoot name decl ∧ decl.keyFieldName = key
  leaves : ∀ view name, .rootEntity view (some name) ∈ snapshot.types →
    ∃ field ∈ view.fields, field.name = name ∧ field.isList = false ∧
      (field.typeKind = some .scalar ∨ field.typeKind = some .enum)

end Snapshot

namespace Model

variable {model : Model} {view : ObjectView} {key : Option String} {object : ObjectType}
  {owner name target : String} {field : Field}

theorem name_typeView (type : TypeDef) : (model.typeView type).name = type.name := by
  match type with
  | .builtIn _ | .declared (.scalar _) | .declared (.enum _) => rfl
  | .declared (.object kind _) => cases kind <;> rfl

theorem kind_typeView (type : TypeDef) : (model.typeView type).kind = type.kind := by
  match type with
  | .builtIn _ | .declared (.scalar _) | .declared (.enum _) => rfl
  | .declared (.object kind _) => cases kind <;> rfl

theorem object?_typeView (type : TypeDef) :
    (model.typeView type).object? = type.object?.map model.objectView := by
  match type with
  | .builtIn _ | .declared (.scalar _) | .declared (.enum _) => rfl
  | .declared (.object kind _) => cases kind <;> rfl

theorem snapshot_objects : model.snapshot.objects = model.objects.map model.objectView := by
  simp [Snapshot.objects, snapshot, typeViews, objects, List.filterMap_map, List.map_filterMap,
    object?_typeView]

/-- A root entity is viewed with the name of the key field that it has. -/
theorem typeView_eq_rootEntity_iff {type : TypeDef} : model.typeView type = .rootEntity view key ↔
    ∃ decl, type = .declared (.object .rootEntity decl) ∧
      model.objectView ⟨.rootEntity, decl⟩ = view ∧
      (ObjectType.keyField? ⟨.rootEntity, decl⟩).map (·.name) = key := by
  match type with
  | .builtIn _ | .declared (.scalar _) | .declared (.enum _) => simp [typeView]
  | .declared (.object kind decl) => cases kind <;> simp [typeView]

theorem mem_roots_iff : .rootEntity view key ∈ model.snapshot.types ↔
    ∃ decl, ⟨.rootEntity, decl⟩ ∈ objectsOf model.types ∧
      model.objectView ⟨.rootEntity, decl⟩ = view ∧
      (ObjectType.keyField? ⟨.rootEntity, decl⟩).map (·.name) = key := by
  constructor
  · intro member
    obtain ⟨type, kept, viewed⟩ := List.mem_map.mp member
    obtain ⟨decl, rfl, shown⟩ := typeView_eq_rootEntity_iff.mp viewed
    exact ⟨decl, mem_objectsOf_iff.mpr kept, shown⟩
  · rintro ⟨decl, kept, shown⟩
    exact List.mem_map.mpr
      ⟨_, mem_objectsOf_iff.mp kept, typeView_eq_rootEntity_iff.mpr ⟨decl, rfl, shown⟩⟩

theorem keyField?_of_root {decl : ObjectDecl} :
    ObjectType.keyField? ⟨.rootEntity, decl⟩ =
      decl.keyFieldName.bind (ObjectType.field? ⟨.rootEntity, decl⟩) := by
  simp [ObjectType.keyField?, ObjectType.isRoot]

theorem hasRelation_of_isEnd (isEnd : Relation.IsEnd model.types owner name target field) :
    model.snapshot.HasRelation owner name target := by
  obtain ⟨object, kept, named, member⟩ := isEnd.owned
  refine ⟨model.objectView object, ?_, named, model.fieldView field, List.mem_map_of_mem member,
    isEnd.named, isEnd.relation, isEnd.leads⟩
  rw [snapshot_objects]
  exact List.mem_map_of_mem kept

/-- The kind that a field shows is that of the only type with its type's name. -/
theorem typeKind_eq_some_iff {kind : Kind} : (model.fieldView field).typeKind = some kind ↔
    ∃ type ∈ model.snapshot.types, type.name = field.typeName ∧ type.kind = kind := by
  rw [fieldView, Option.map_eq_some_iff]
  constructor
  · rintro ⟨type, found, rfl⟩
    obtain ⟨kept, named⟩ := Arena.type?_eq_some_iff.mp found
    exact ⟨model.typeView type, List.mem_map_of_mem kept, (name_typeView type).trans named,
      kind_typeView type⟩
  · rintro ⟨shown, member, named, rfl⟩
    obtain ⟨type, kept, rfl⟩ := List.mem_map.mp member
    rw [name_typeView] at named
    exact ⟨type, Arena.type?_eq_some_iff.mpr ⟨kept, named⟩, (kind_typeView type).symm⟩

theorem closed_snapshot (declarations : Declarations) :
    (ofDeclarations declarations).snapshot.Closed := by
  have unique : UniqueNames (ofDeclarations declarations).types := (ofDeclarations declarations).unique
  have rests (relation : RelationView)
      (shown : relation ∈ (ofDeclarations declarations).snapshot.relations) :
      ∃ original near far, relation = .ofRelation original ∧
        original.RestsOn (ofDeclarations declarations).types near far := by
    obtain ⟨original, listed, rfl⟩ := List.mem_map.mp shown
    obtain ⟨near, far, rests⟩ := Relation.exists_restsOn unique (relations_eq ▸ listed)
    exact ⟨original, near, far, rfl, rests⟩
  constructor
  case names =>
    have names : (ofDeclarations declarations).snapshot.types.map (·.name) =
        (ofDeclarations declarations).types.map (·.name) := by
      simp [snapshot, typeViews, Function.comp_def, name_typeView]
    rw [names]
    exact unique
  case kinds =>
    rw [snapshot_objects]
    intro object member shown listed kind
    obtain ⟨source, _, rfl⟩ := List.mem_map.mp member
    obtain ⟨field, _, rfl⟩ := List.mem_map.mp listed
    exact typeKind_eq_some_iff
  case keys =>
    intro view name member
    obtain ⟨decl, _, rfl, named⟩ := mem_roots_iff.mp member
    obtain ⟨field, found, rfl⟩ := Option.map_eq_some_iff.mp named
    rw [keyField?_of_root] at found
    obtain ⟨name, _, here⟩ := Option.bind_eq_some_iff.mp found
    exact ⟨_, List.mem_map_of_mem (mem_of_field? here).1, rfl⟩
  case starts =>
    intro relation shown
    obtain ⟨original, near, far, rfl, rests⟩ := rests relation shown
    exact hasRelation_of_isEnd rests.start
  case targets =>
    intro relation shown
    obtain ⟨original, near, far, rfl, rests⟩ := rests relation shown
    obtain ⟨object, kept, named⟩ := rests.target
    rw [snapshot_objects]
    exact ⟨_, List.mem_map_of_mem kept, named⟩
  case backs =>
    intro relation shown name back
    obtain ⟨original, near, far, rfl, rests⟩ := rests relation shown
    obtain ⟨other, rfl, rfl⟩ := Option.map_eq_some_iff.mp (rests.toField.symm.trans back)
    exact hasRelation_of_isEnd (rests.back other rfl).1
  case namespaces =>
    intro path
    have paths : (ofDeclarations declarations).snapshot.namespaces.map (·.path) =
        (ofDeclarations declarations).namespaces.paths := by
      rw [← NamespaceTree.paths_namespaces]
      simp only [snapshot, namespaceViews, NamespaceView.ofNamespace, List.map_map,
        Function.comp_def]
    rw [paths, snapshot_objects]
    simp [ofDeclarations, NamespaceTree.mem_ofPaths_iff, objects, objectView]

section Accepted
variable {declarations : Declarations} (valid : declarations.WellFormed)
  (keeps : Registry.Keeps model.types declarations.types)
include valid keeps

/-- Every field leads to a type: a system field to a built-in scalar, a declared one to a type that
the declarations know. -/
theorem exists_type_of_mem_fields (kept : object ∈ objectsOf model.types)
    (member : field ∈ object.fields) : ∃ type, findType? model.types field.typeName = some type := by
  rcases ObjectType.mem_fields_iff.mp member with system | ⟨decl, declared, rfl⟩
  · obtain ⟨name, _, scalar, rfl⟩ := ObjectType.of_mem_systemFields system
    exact ⟨_, keeps.findType?_builtIn scalar⟩
  · have objectValid := valid.objectWellFormed keeps kept
    exact Option.isSome_iff_exists.mp
      (keeps.findType?_isSome_iff.mpr (objectValid.fields decl declared).type)

/-- The key field that a root entity declares is one of its fields, and holds a single leaf value. -/
theorem exists_keyField {decl : ObjectDecl} (kept : ⟨.rootEntity, decl⟩ ∈ objectsOf model.types)
    (names : decl.keyFieldName = some name) :
    ∃ field, ObjectType.keyField? ⟨.rootEntity, decl⟩ = some field ∧
      field ∈ ObjectType.fields ⟨.rootEntity, decl⟩ ∧ field.name = name ∧ field.isList = false ∧
      ((model.fieldView field).typeKind = some .scalar ∨
        (model.fieldView field).typeKind = some .enum) := by
  have objectValid := valid.objectWellFormed keeps kept
  have unique := valid.uniqueFields keeps _ kept
  obtain ⟨field, found, single, leaf⟩ := Validation.harmless_keyField_iff.mp
    ((Validation.harmless_keyField keeps rfl unique).mpr (objectValid.key name names).2)
  obtain ⟨member, named⟩ := mem_of_field? found
  obtain ⟨type, leads⟩ := exists_type_of_mem_fields valid keeps kept member
  refine ⟨field, by simp [keyField?_of_root, names, found], member, named, single, ?_⟩
  have shown : (model.fieldView field).typeKind = some type.kind := by
    simp [fieldView, type?_eq, leads]
  rw [shown]
  cases kind : type.kind with
  | scalar => exact .inl rfl
  | enum => exact .inr rfl
  | object kind =>
    have noObject := leaf type leads
    rw [kind] at noObject
    cases noObject

/-- The key that a root entity shows is the one that it declares. -/
theorem keyField?_map_name {decl : ObjectDecl} (kept : ⟨.rootEntity, decl⟩ ∈ objectsOf model.types) :
    (ObjectType.keyField? ⟨.rootEntity, decl⟩).map (·.name) = decl.keyFieldName := by
  cases names : decl.keyFieldName with
  | none => simp [keyField?_of_root, names]
  | some name =>
    obtain ⟨field, found, _, rfl, _⟩ := exists_keyField valid keeps kept names
    rw [found]
    rfl

theorem settled_snapshot : model.snapshot.Settled declarations := by
  constructor
  case kinds =>
    rw [snapshot_objects]
    intro object member shown listed
    obtain ⟨source, kept, rfl⟩ := List.mem_map.mp member
    obtain ⟨field, owned, rfl⟩ := List.mem_map.mp listed
    obtain ⟨type, found⟩ := exists_type_of_mem_fields valid keeps kept owned
    simp [fieldView, type?_eq, found]
  case keys =>
    intro name key
    constructor
    · rintro ⟨view, member, rfl⟩
      obtain ⟨decl, kept, rfl, rfl⟩ := mem_roots_iff.mp member
      exact ⟨decl, ⟨keeps.mem_objectsOf_iff.mp kept, rfl⟩,
        (keyField?_map_name valid keeps kept).symm⟩
    · rintro ⟨decl, ⟨declared, rfl⟩, rfl⟩
      have kept : ⟨.rootEntity, decl⟩ ∈ objectsOf model.types := keeps.mem_objectsOf_iff.mpr declared
      exact ⟨_, mem_roots_iff.mpr ⟨decl, kept, rfl, keyField?_map_name valid keeps kept⟩, rfl⟩
  case leaves =>
    intro view name member
    obtain ⟨decl, kept, rfl, named⟩ := mem_roots_iff.mp member
    rw [keyField?_map_name valid keeps kept] at named
    obtain ⟨field, _, member, same, single, leaf⟩ := exists_keyField valid keeps kept named
    exact ⟨model.fieldView field, List.mem_map_of_mem member, same, single, leaf⟩

end Accepted

/-- The snapshot of any model is closed. Without errors its fields all have kinds, and its root
entities show the keys that they declare. -/
theorem snapshot_closed (declarations : Declarations) :
    (ofDeclarations declarations).snapshot.Closed ∧
      ((ofDeclarations declarations).validate.hasErrors = false →
        (ofDeclarations declarations).snapshot.Settled declarations) := by
  refine ⟨closed_snapshot declarations, fun accepted => ?_⟩
  have valid := Declarations.hasErrors_eq_false_iff.mp accepted
  exact settled_snapshot valid (Registry.keeps_ofDecls valid.conflicts_eq_nil)

namespace Atlas

/-- Countries by their codes, with the continent that each lies on. -/
def country : ObjectDecl where
  name := "Country"
  namespacePath := ["generic", "places"]
  keyFieldName := some "isoCode"
  fields := [
    { name := "isoCode", typeName := "String" },
    { name := "continent", typeName := "Continent" },
    { name := "neighbours", typeName := "Country", isList := true, isRelation := true }]

def declarations : Declarations where
  types := [
    .enum { name := "Continent", values := [{ value := "AFRICA" }, { value := "ASIA" }] },
    .object .rootEntity country]

theorem country_settled : (ofDeclarations declarations).validate.hasErrors = false ∧
    (ofDeclarations declarations).snapshot.Settled declarations := by
  have accepted : (ofDeclarations declarations).validate.hasErrors = false := by decide
  exact ⟨accepted, (snapshot_closed declarations).2 accepted⟩

end Atlas
end Model
end TypeGraph
