import TypeGraph.Model
import TypeGraph.Proofs.NamespaceChildren
import TypeGraph.Proofs.Registry

/-! How the tree of namespaces divides the object types of a model. The types below a namespace are
found by their paths, the children of a namespace by a scan of the tree; the two agree because every
step on the way to a type is a node, and because no child lies on the way to another. -/
namespace TypeGraph.Model

variable {model : Model} {object : ObjectType} {ns : Namespace} {declarations : Declarations}

theorem mem_objectsIn_iff : object ∈ model.objectsIn ns ↔
    object ∈ model.objects ∧ object.namespacePath = ns.path := by
  simp [objectsIn]

theorem mem_objectsBelow_iff : object ∈ model.objectsBelow ns ↔
    object ∈ model.objects ∧ ns.path <+: object.namespacePath := by
  simp [objectsBelow]

theorem nodup_objects (declarations : Declarations) : (ofDeclarations declarations).objects.Nodup :=
  Registry.unique_ofDecls.nodup_objectNames.of_map

/-- The path of every object type is one of those that the tree is made of. -/
theorem namespacePath_mem (kept : object ∈ (ofDeclarations declarations).objects) :
    object.namespacePath ∈ (ofDeclarations declarations).namespaces.paths := by
  have given := List.mem_map_of_mem (f := ObjectType.namespacePath) kept
  exact NamespaceTree.mem_ofPaths_iff.mpr (.inr ⟨_, given, List.prefix_rfl⟩)

/-- The object types of a namespace itself, and then those below each of its children. -/
def parts (model : Model) (ns : Namespace) : List (List ObjectType) :=
  model.objectsIn ns :: (model.namespaces.children ns).map model.objectsBelow

/-- No type is in two parts: one in the namespace itself is not below a child, and one below a child is
below no other. -/
theorem disjoint_parts (model : Model) (ns : Namespace) :
    (model.parts ns).Pairwise List.Disjoint := by
  refine List.pairwise_cons.mpr ⟨?_, List.pairwise_map.mpr ?_⟩
  · intro others listed object here there
    obtain ⟨child, member, rfl⟩ := List.mem_map.mp listed
    obtain ⟨_, _, longer⟩ := NamespaceTree.mem_children_iff.mp member
    have below := (mem_objectsBelow_iff.mp there).2.length_le
    rw [(mem_objectsIn_iff.mp here).2, longer] at below
    exact Nat.not_succ_le_self _ below
  · refine NamespaceTree.sorted_children.imp_of_mem fun {first second} left right less => ?_
    intro object here there
    have same := NamespaceTree.eq_of_children left right (mem_objectsBelow_iff.mp here).2
      (mem_objectsBelow_iff.mp there).2
    exact List.lt_irrefl _ (same ▸ less)

theorem nodup_flatten_parts (distinct : model.objects.Nodup) (ns : Namespace) :
    (model.parts ns).flatten.Nodup := by
  refine List.nodup_flatten.mpr ⟨?_, disjoint_parts model ns⟩
  intro part listed
  rcases List.mem_cons.mp listed with rfl | later
  · exact distinct.filter _
  · obtain ⟨child, _, rfl⟩ := List.mem_map.mp later
    exact distinct.filter _

/-- In a tree that has every step on the way to a type, what is below a namespace is in one of its
parts. -/
theorem mem_objectsBelow_iff_parts (closed : model.namespaces.PrefixClosed)
    (home : object ∈ model.objects → object.namespacePath ∈ model.namespaces.paths) :
    object ∈ model.objectsBelow ns ↔ object ∈ (model.parts ns).flatten := by
  rw [mem_objectsBelow_iff, parts, List.flatten_cons, List.mem_append, mem_objectsIn_iff,
    List.mem_flatten]
  constructor
  · intro found
    obtain ⟨kept, below⟩ := found
    rcases (closed.extends_iff (home kept)).mp below with here | ⟨child, member, below⟩
    · exact .inl ⟨kept, here⟩
    · exact .inr ⟨_, List.mem_map_of_mem member, mem_objectsBelow_iff.mpr ⟨kept, below⟩⟩
  · intro found
    rcases found with ⟨kept, here⟩ | ⟨others, listed, there⟩
    · exact ⟨kept, here ▸ List.prefix_rfl⟩
    · obtain ⟨child, member, rfl⟩ := List.mem_map.mp listed
      obtain ⟨kept, below⟩ := mem_objectsBelow_iff.mp there
      exact ⟨kept, (NamespaceTree.mem_children_iff.mp member).2.1.trans below⟩

/-- The nodes of the tree share out the object types of the model. -/
structure Partitioned (model : Model) : Prop where
  /-- A type is filed under the node at its own path and under no other. -/
  filed : ∀ object ∈ model.objects, ∃ node ∈ model.namespaces.namespaces,
    node.path = object.namespacePath ∧
      ∀ ns ∈ model.namespaces.namespaces, object ∈ model.objectsIn ns ↔ ns = node
  ordered : ∀ ns, (model.objectsBelow ns).Sublist model.objects
  distinct : ∀ ns, (model.objectsBelow ns).Nodup
  /-- What is below a namespace is what it has itself and what is below its children. -/
  divided : ∀ ns, (model.objectsBelow ns).Perm (model.parts ns).flatten
  apart : ∀ ns, (model.parts ns).Pairwise List.Disjoint
  whole : model.objectsBelow ⟨[]⟩ = model.objects

/-- Every model's object types are divided by its namespaces. -/
theorem partitioned_by_namespaces (declarations : Declarations) :
    (ofDeclarations declarations).Partitioned := by
  have closed : (ofDeclarations declarations).namespaces.PrefixClosed :=
    NamespaceTree.prefixClosed_ofPaths _
  have distinct := nodup_objects declarations
  constructor
  case filed =>
    intro object kept
    refine ⟨⟨object.namespacePath⟩, NamespaceTree.mem_namespaces_iff.mpr (namespacePath_mem kept),
      rfl, fun ns _ => ?_⟩
    rw [mem_objectsIn_iff]
    constructor
    · intro found
      exact Namespace.path_injective found.2.symm
    · rintro rfl
      exact ⟨kept, rfl⟩
  case ordered =>
    intro ns
    exact List.filter_sublist
  case distinct =>
    intro ns
    exact distinct.filter _
  case divided =>
    intro ns
    have once := nodup_flatten_parts distinct ns
    refine (List.perm_ext_iff_of_nodup (distinct.filter _) once).mpr fun object => ?_
    exact mem_objectsBelow_iff_parts closed namespacePath_mem
  case apart =>
    intro ns
    exact disjoint_parts _ ns
  case whole =>
    simp [objectsBelow]

end TypeGraph.Model
