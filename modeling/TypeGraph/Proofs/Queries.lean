import TypeGraph.View.Query
import TypeGraph.Proofs.DottedPaths
import TypeGraph.Proofs.Grouping
import TypeGraph.Proofs.SnapshotClosure

/-! Queries against the snapshot. A query looks names up in the index of the model, yet what it answers
can be read off the lists of the snapshot: the element of a name, the elements of a kind, the relations
that have a type at either end. -/
namespace TypeGraph

open Json (list)

namespace Snapshot

/-- Answers to queries say what the snapshot says, and null where it has nothing to say. Only a kind
that is none of the six has no answer. -/
structure Answers (snapshot : Snapshot) (answer : Query → Except UnknownKind Json) : Prop where
  types : answer .types = .ok (list TypeView.toJson snapshot.types)
  names : (snapshot.types.map (·.name)).Nodup
  type : ∀ view ∈ snapshot.types, answer (.type view.name) = .ok view.toJson
  noType : ∀ name, (∀ view ∈ snapshot.types, view.name ≠ name) → answer (.type name) = .ok .null
  kind : ∀ kind : Kind, answer (.kind kind.name) =
    .ok (list TypeView.toJson (snapshot.types.filter (·.kind = kind)))
  noKind : ∀ name, (∃ unknown, answer (.kind name) = .error unknown) ↔
    name ∉ ["ROOT_ENTITY", "CHILD_ENTITY", "ENTITY_EXTENSION", "VALUE_OBJECT", "SCALAR", "ENUM"]
  relations : ∀ view ∈ snapshot.types, view.kind.isObject = true →
    answer (.relations view.name) = .ok (list RelationView.toJson
      (snapshot.relations.filter fun relation =>
        relation.fromType = view.name ∨ relation.toType = view.name))
  noRelations : ∀ name, (∀ view ∈ snapshot.types, view.kind.isObject = true → view.name ≠ name) →
    answer (.relations name) = .ok .null
  once : snapshot.relations.Nodup
  namespaces : answer .namespaces = .ok (list NamespaceView.toJson snapshot.namespaces)
  paths : (snapshot.namespaces.map (·.path)).Nodup
  namespaceAt : ∀ view ∈ snapshot.namespaces, ∀ dotted, Namespace.Spells dotted view.path →
    answer (.namespaceAt dotted) = .ok view.toJson
  noNamespace : ∀ dotted, (∀ view ∈ snapshot.namespaces, ¬Namespace.Spells dotted view.path) →
    answer (.namespaceAt dotted) = .ok .null
  /-- An enum is answered as it is among the types, but without its kind. -/
  enum : ∀ view, .enum view ∈ snapshot.types → ∃ members,
    (TypeView.enum view).toJson = .obj (("kind", .str "ENUM") :: members) ∧
      answer (.enum view.name) = .ok (.obj members)
  noEnum : ∀ name, (∀ view, .enum view ∈ snapshot.types → view.name ≠ name) →
    answer (.enum name) = .ok .null
  /-- Either type at the ends of a relation lists it, the same view and once. -/
  bothEnds : ∀ relation ∈ snapshot.relations, ∀ name,
    name = relation.fromType ∨ name = relation.toType →
      ∃ listed, answer (.relations name) = .ok (list RelationView.toJson listed) ∧
        listed.count relation = 1
  /-- Every type is of one of the six kinds. -/
  kinds : (Kind.all.flatMap fun kind => snapshot.types.filter (·.kind = kind)).Perm snapshot.types

theorem exists_view_of_mem_objects {snapshot : Snapshot} {object : ObjectView}
    (member : object ∈ snapshot.objects) :
    ∃ view ∈ snapshot.types, view.kind.isObject = true ∧ view.name = object.name := by
  obtain ⟨view, listed, owns⟩ := List.mem_filterMap.mp member
  refine ⟨view, listed, ?_⟩
  cases view with
  | scalar | enum => cases owns
  | rootEntity | childEntity | entityExtension | valueObject =>
    cases owns
    exact ⟨rfl, rfl⟩

end Snapshot

namespace Kind

/-- The lists of the kinds have every item once. -/
theorem flatMap_filter_perm {Item : Type} (kind : Item → Kind) (items : List Item) :
    (all.flatMap fun wanted => items.filter (kind · = wanted)).Perm items :=
  TypeGraph.flatMap_filter_perm (by decide) fun item _ => mem_all (kind item)

theorem ofName_isError_iff {name : String} : (∃ unknown, ofName name = .error unknown) ↔
    name ∉ ["ROOT_ENTITY", "CHILD_ENTITY", "ENTITY_EXTENSION", "VALUE_OBJECT", "SCALAR", "ENUM"] := by
  have spellings : (ofName? name).isSome = true ↔
      name ∈ ["ROOT_ENTITY", "CHILD_ENTITY", "ENTITY_EXTENSION", "VALUE_OBJECT", "SCALAR", "ENUM"] := by
    simp only [ofName?, List.find?_isSome, all, Kind.name, ObjectKind.name, beq_iff_eq]
    simp only [List.mem_cons, List.not_mem_nil, or_false, exists_eq_or_imp, exists_eq_left]
    grind
  rw [← spellings, ofName]
  cases ofName? name <;> simp

end Kind

/-- Where nothing fits, nothing is found by a lookup that finds what fits. -/
theorem eq_none_of_forall_not {Item : Type} {found : Option Item} {fits : Item → Prop}
    (finds : ∀ item, found = some item ↔ fits item) (absent : ∀ item, ¬fits item) :
    found = none :=
  Option.eq_none_iff_forall_ne_some.mpr fun item here => absent item ((finds item).mp here)

namespace Model

variable {model : Model} {name : String}

theorem typeView?_eq_some_iff {view : TypeView} :
    model.typeView? name = some view ↔ view ∈ model.snapshot.types ∧ view.name = name := by
  rw [typeView?, type?, Option.map_eq_some_iff]
  simp only [Arena.type?_eq_some_iff, snapshot, typeViews, List.mem_map]
  constructor
  · rintro ⟨type, ⟨kept, rfl⟩, rfl⟩
    exact ⟨⟨type, kept, rfl⟩, name_typeView type⟩
  · rintro ⟨⟨type, kept, rfl⟩, rfl⟩
    exact ⟨type, ⟨kept, (name_typeView type).symm⟩, rfl⟩

theorem typeViewsOf_eq (kind : Kind) :
    model.typeViewsOf kind = model.snapshot.types.filter (·.kind = kind) := by
  simp [typeViewsOf, ofKind, snapshot, typeViews, List.filter_map, Function.comp_def, kind_typeView]

/-- Relations are listed under names of object types, and those are the ones with such a view. -/
theorem object?_isSome_iff : (model.object? name).isSome = true ↔
    ∃ view ∈ model.snapshot.types, view.kind.isObject = true ∧ view.name = name := by
  have owns (type : TypeDef) : type.object?.isSome = type.kind.isObject := by
    match type with
    | .builtIn _ | .declared (.scalar _) | .declared (.enum _) | .declared (.object _ _) => rfl
  simp only [object?, Scope.object?, type?, Option.isSome_bind, Option.any_eq_true, snapshot,
    typeViews, List.mem_map, Arena.type?_eq_some_iff, owns]
  constructor
  · rintro ⟨type, ⟨kept, rfl⟩, object⟩
    exact ⟨_, ⟨type, kept, rfl⟩, (kind_typeView type).symm ▸ object, name_typeView type⟩
  · rintro ⟨_, ⟨type, kept, rfl⟩, object, rfl⟩
    exact ⟨type, ⟨kept, (name_typeView type).symm⟩, kind_typeView type ▸ object⟩

theorem relationsOf_views : (model.relationsOf name).map .ofRelation =
    model.snapshot.relations.filter fun relation =>
      relation.fromType = name ∨ relation.toType = name := by
  have involves (relation : Relation) : relation.involves name =
      decide (relation.fromType = name ∨ relation.toType = name) := by
    rw [Bool.eq_iff_iff]
    simp [Relation.involves]
  simp only [relationsOf, snapshot, relationViews, List.filter_map, Function.comp_def, involves,
    RelationView.ofRelation]
  rfl

theorem namespaceView?_eq_some_iff {path : List String} {view : NamespaceView} :
    model.namespaceView? path = some view ↔ view ∈ model.snapshot.namespaces ∧ view.path = path := by
  rw [namespaceView?, namespace?, Option.map_eq_some_iff]
  simp only [NamespaceTree.get?_eq_some_iff, snapshot, namespaceViews, List.mem_map,
    NamespaceTree.mem_namespaces_iff]
  constructor
  · rintro ⟨ns, ⟨kept, rfl⟩, rfl⟩
    exact ⟨⟨ns, kept, rfl⟩, rfl⟩
  · rintro ⟨⟨ns, kept, rfl⟩, rfl⟩
    exact ⟨ns, ⟨kept, rfl⟩, rfl⟩

theorem typeView_eq_enum_iff {type : TypeDef} {view : EnumView} : model.typeView type = .enum view ↔
    ∃ decl, type = .declared (.enum decl) ∧ EnumView.ofDecl decl = view := by
  match type with
  | .builtIn _ | .declared (.scalar _) | .declared (.enum _) => simp [typeView]
  | .declared (.object kind _) => cases kind <;> simp [typeView]

theorem enumView?_eq_some_iff {view : EnumView} :
    model.enumView? name = some view ↔ .enum view ∈ model.snapshot.types ∧ view.name = name := by
  have enum?_eq_some_iff {type : TypeDef} {decl : EnumDecl} :
      type.enum? = some decl ↔ type = .declared (.enum decl) := by
    match type with
    | .builtIn _ | .declared (.scalar _) | .declared (.enum _) | .declared (.object _ _) =>
      simp [TypeDef.enum?]
  simp only [enumView?, enum?, type?, Option.map_eq_some_iff, Option.bind_eq_some_iff,
    Arena.type?_eq_some_iff, enum?_eq_some_iff, snapshot, typeViews, List.mem_map,
    typeView_eq_enum_iff]
  constructor
  · rintro ⟨decl, ⟨type, ⟨kept, rfl⟩, rfl⟩, rfl⟩
    exact ⟨⟨_, kept, decl, rfl, rfl⟩, rfl⟩
  · rintro ⟨⟨type, kept, decl, rfl, rfl⟩, rfl⟩
    exact ⟨decl, ⟨_, ⟨kept, rfl⟩, rfl⟩, rfl⟩

theorem nodup_relationViews (declarations : Declarations) :
    (ofDeclarations declarations).snapshot.relations.Nodup := by
  have distinct : (ofDeclarations declarations).relations.Nodup :=
    relations_eq ▸ Relation.nodup_resolve
  refine distinct.map ?_
  rintro ⟨⟩ ⟨⟩ same
  cases same
  rfl

theorem nodup_namespaceViews (declarations : Declarations) :
    ((ofDeclarations declarations).snapshot.namespaces.map (·.path)).Nodup := by
  have nodes : ((ofDeclarations declarations).namespaces.namespaces.map (·.path)).Nodup :=
    NamespaceTree.nodup_namespaces.map Namespace.path_injective
  simpa [snapshot, namespaceViews, NamespaceView.ofNamespace, Function.comp_def] using nodes

/-- Whatever a query asks of the model of any declarations, its answer can be read off the snapshot.
So a relation is listed alike by the types at both of its ends, and the lists of the six kinds have
every type once. -/
theorem answers_agree_with_snapshot (declarations : Declarations) :
    (ofDeclarations declarations).snapshot.Answers (·.answer (ofDeclarations declarations)) := by
  have closed := closed_snapshot declarations
  have relations : ∀ name, (∃ view ∈ (ofDeclarations declarations).snapshot.types,
      view.kind.isObject = true ∧ view.name = name) →
      Query.answer (.relations name) (ofDeclarations declarations) =
        .ok (list RelationView.toJson ((ofDeclarations declarations).snapshot.relations.filter
          fun relation => relation.fromType = name ∨ relation.toType = name)) := by
    intro name shown
    obtain ⟨object, found⟩ := Option.isSome_iff_exists.mp (object?_isSome_iff.mpr shown)
    simp only [Query.answer, relationViews?, found, Option.map_some, Json.nullable, relationsOf_views]
  constructor
  case types => rfl
  case names => exact closed.names
  case type =>
    intro view member
    simp only [Query.answer, typeView?_eq_some_iff.mpr ⟨member, rfl⟩, Json.nullable]
  case noType =>
    intro name absent
    have missing := eq_none_of_forall_not (fun _ => typeView?_eq_some_iff)
      fun view shown => absent view shown.1 shown.2
    simp only [Query.answer, missing, Json.nullable]
  case kind =>
    intro kind
    simp [Query.answer, Kind.ofName, typeViewsOf_eq]
  case noKind =>
    intro name
    rw [← Kind.ofName_isError_iff]
    cases found : Kind.ofName name <;> simp [Query.answer, found]
  case relations =>
    intro view member object
    exact relations view.name ⟨view, member, object, rfl⟩
  case noRelations =>
    intro name absent
    have missing : (ofDeclarations declarations).object? name = none := by
      refine Option.not_isSome_iff_eq_none.mp fun found => ?_
      obtain ⟨view, member, owns, same⟩ := object?_isSome_iff.mp found
      exact absent view member owns same
    simp only [Query.answer, relationViews?, missing, Option.map_none, Json.nullable]
  case once => exact nodup_relationViews declarations
  case namespaces => rfl
  case paths => exact nodup_namespaceViews declarations
  case namespaceAt =>
    intro view member dotted spells
    have path := Namespace.pathOfDotted_eq_iff.mpr spells
    simp only [Query.answer, path, namespaceView?_eq_some_iff.mpr ⟨member, rfl⟩, Json.nullable]
  case noNamespace =>
    intro dotted absent
    have missing := eq_none_of_forall_not (fun _ => namespaceView?_eq_some_iff)
      fun view shown => absent view shown.1 (Namespace.pathOfDotted_eq_iff.mp shown.2.symm)
    simp only [Query.answer, missing, Json.nullable]
  case enum =>
    intro view member
    refine ⟨view.members, rfl, ?_⟩
    simp only [Query.answer, enumView?_eq_some_iff.mpr ⟨member, rfl⟩, Json.nullable,
      EnumView.toJson]
  case noEnum =>
    intro name absent
    have missing := eq_none_of_forall_not (fun _ => enumView?_eq_some_iff)
      fun view shown => absent view shown.1 shown.2
    simp only [Query.answer, missing, Json.nullable]
  case bothEnds =>
    intro relation member name isEnd
    have shown : ∃ object ∈ (ofDeclarations declarations).snapshot.objects, object.name = name := by
      rcases isEnd with rfl | rfl
      · obtain ⟨object, listed, named, _⟩ := closed.starts relation member
        exact ⟨object, listed, named⟩
      · exact closed.targets relation member
    obtain ⟨object, listed, rfl⟩ := shown
    refine ⟨_, relations _ (Snapshot.exists_view_of_mem_objects listed), ?_⟩
    refine List.count_eq_one_of_mem ((nodup_relationViews declarations).filter _) ?_
    exact List.mem_filter.mpr ⟨member, decide_eq_true (isEnd.imp Eq.symm Eq.symm)⟩
  case kinds => exact Kind.flatMap_filter_perm TypeView.kind _

end Model
end TypeGraph
