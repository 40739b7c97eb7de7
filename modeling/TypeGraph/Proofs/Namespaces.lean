import TypeGraph.Namespace
import TypeGraph.Proofs.Lookup
import Mathlib.Data.List.Sort

/-! What a tree of namespaces holds: the root, and every beginning of a path that it is made of. It
depends on which paths there are, not on their order or number. -/
namespace TypeGraph

/-- A namespace is nothing but its path. -/
theorem Namespace.path_injective : Function.Injective Namespace.path := by
  intro first second same
  cases first
  cases second
  cases same
  rfl

namespace NamespaceTree

/-- The paths of the nodes, in their order. -/
def paths (tree : NamespaceTree) : List (List String) := tree.nodes.map (·.1)

theorem sorted_paths (tree : NamespaceTree) : tree.paths.Pairwise (· < ·) :=
  List.pairwise_map.mpr tree.sorted

theorem nodup_paths (tree : NamespaceTree) : tree.paths.Nodup := by
  refine tree.sorted_paths.imp fun {first second} less same => ?_
  exact List.lt_irrefl first (same ▸ less)

theorem rooted_paths (tree : NamespaceTree) : [] ∈ tree.paths := tree.rooted

/-- The paths leave nothing open about the nodes. -/
theorem nodes_eq (tree : NamespaceTree) :
    tree.nodes = tree.paths.map fun path => (path, ⟨path⟩) := by
  rw [paths, List.map_map]
  refine (List.map_id _).symm.trans (List.map_congr_left fun node member => ?_)
  exact Prod.ext rfl (Namespace.path_injective (tree.named node member))

variable {path other : List String} {paths : List (List String)}

/-- Trees with the same paths are equal. -/
theorem ext_paths {first second : NamespaceTree}
    (same : ∀ path, path ∈ first.paths ↔ path ∈ second.paths) : first = second := by
  have paths := first.sorted_paths.eq_of_mem_iff second.sorted_paths same
  have nodes : first.nodes = second.nodes := by rw [nodes_eq, paths, ← nodes_eq]
  cases first
  cases second
  cases nodes
  rfl

theorem mem_foldl_insert_iff {tree : NamespaceTree} :
    path ∈ (paths.foldl insert tree).paths ↔ path ∈ tree.paths ∨ path ∈ paths := by
  induction paths generalizing tree with
  | nil => simp
  | cons head rest ih =>
    have inserted : path ∈ (tree.insert head).paths ↔ path = head ∨ path ∈ tree.paths :=
      mem_keys_insertNode
    rw [List.foldl_cons, ih, List.mem_cons, inserted, ← or_assoc, or_comm (b := path ∈ tree.paths)]

theorem mem_prefixes_iff : other ∈ prefixes path ↔ other <+: path ∧ other ≠ [] := by
  simp only [prefixes, List.mem_map, List.mem_range]
  constructor
  · rintro ⟨n, inside, rfl⟩
    refine ⟨List.take_prefix .., fun empty => ?_⟩
    have short : path = [] := by simpa using empty
    simp [short] at inside
  · rintro ⟨initial, nonempty⟩
    have positive := List.length_pos_iff.mpr nonempty
    have within := initial.length_le
    refine ⟨other.length - 1, by omega, ?_⟩
    rw [Nat.sub_add_cancel positive]
    exact (List.prefix_iff_eq_take.mp initial).symm

theorem mem_ofPaths_iff :
    path ∈ (ofPaths paths).paths ↔ path = [] ∨ ∃ whole ∈ paths, path <+: whole := by
  rw [ofPaths, mem_foldl_insert_iff, List.mem_flatMap]
  simp only [mem_prefixes_iff, NamespaceTree.paths, root, List.map_cons, List.map_nil,
    List.mem_singleton]
  by_cases empty : path = []
  · simp [empty]
  · simp [empty]

theorem ofPaths_perm {others : List (List String)} (perm : paths.Perm others) :
    ofPaths paths = ofPaths others := by
  refine ext_paths fun path => ?_
  simp only [mem_ofPaths_iff, perm.mem_iff]

variable {tree : NamespaceTree} {ns : Namespace}

theorem namespaces_eq (tree : NamespaceTree) : tree.namespaces = tree.paths.map Namespace.mk := by
  rw [namespaces, nodes_eq, List.map_map]
  rfl

@[simp] theorem paths_namespaces (tree : NamespaceTree) :
    tree.namespaces.map (·.path) = tree.paths := by
  simp [namespaces_eq, Function.comp_def]

theorem mem_namespaces_iff : ns ∈ tree.namespaces ↔ ns.path ∈ tree.paths := by
  rw [← paths_namespaces tree, List.mem_map]
  constructor
  · intro member
    exact ⟨ns, member, rfl⟩
  · intro found
    obtain ⟨other, member, same⟩ := found
    exact Namespace.path_injective same ▸ member

theorem nodup_namespaces : tree.namespaces.Nodup := by
  have distinct : (tree.namespaces.map (·.path)).Nodup := paths_namespaces tree ▸ tree.nodup_paths
  exact distinct.of_map

/-- A lookup finds the node that has the path, and nothing where there is none. -/
theorem get?_eq_some_iff : tree.get? path = some ns ↔ path ∈ tree.paths ∧ ns.path = path := by
  rw [get?, Option.map_eq_some_iff]
  simp only [find?_key_eq_some_iff tree.nodup_paths]
  constructor
  · rintro ⟨node, ⟨member, rfl⟩, rfl⟩
    exact ⟨List.mem_map_of_mem member, tree.named node member⟩
  · intro found
    obtain ⟨kept, rfl⟩ := found
    refine ⟨(ns.path, ns), ⟨?_, rfl⟩, rfl⟩
    rw [nodes_eq]
    exact List.mem_map_of_mem kept

/-- No path stands before the root's, which is empty. -/
theorem head?_paths : tree.paths.head? = some [] := by
  have rooted := tree.rooted_paths
  cases listed : tree.paths with
  | nil => simp [listed] at rooted
  | cons first rest =>
    have sorted := listed ▸ tree.sorted_paths
    rw [listed] at rooted
    rcases List.mem_cons.mp rooted with same | later
    · rw [List.head?_cons, same]
    · exact absurd ((List.pairwise_cons.mp sorted).1 [] later) (List.not_lt_nil first)

/-- Every path on the way to a node is that of a node. -/
def PrefixClosed (tree : NamespaceTree) : Prop :=
  ∀ ⦃path initial⦄, path ∈ tree.paths → initial <+: path → initial ∈ tree.paths

theorem prefixClosed_ofPaths (paths : List (List String)) : (ofPaths paths).PrefixClosed := by
  intro path initial kept starts
  rw [mem_ofPaths_iff] at kept ⊢
  rcases kept with rfl | ⟨whole, given, onTheWay⟩
  · exact .inl (List.prefix_nil.mp starts)
  · exact .inr ⟨whole, given, starts.trans onTheWay⟩

/-- Only the root is without a parent among the nodes. -/
theorem PrefixClosed.exists_parent (closed : tree.PrefixClosed) (kept : ns ∈ tree.namespaces)
    (inner : ns.isRoot = false) :
    ∃ parent ∈ tree.namespaces, ns.parentPath = some parent.path := by
  refine ⟨⟨ns.path.dropLast⟩, mem_namespaces_iff.mpr ?_, by simp [Namespace.parentPath, inner]⟩
  exact closed (mem_namespaces_iff.mp kept) ns.path.dropLast_prefix

/-- The prefix closure of a list of paths: the root, and all that lie on the way to one of them. -/
def InClosure (paths : List (List String)) (path : List String) : Prop :=
  path = [] ∨ ∃ whole ∈ paths, path <+: whole

/-- The nodes of the tree are the prefix closure of the paths, in the order of their paths. -/
structure Spans (tree : NamespaceTree) (paths : List (List String)) : Prop where
  increasing : (tree.namespaces.map (·.path)).Pairwise (· < ·)
  root_first : (tree.namespaces.map (·.path)).head? = some []
  listed : ∀ path, path ∈ tree.namespaces.map (·.path) ↔ InClosure paths path
  found : ∀ path node, tree.get? path = some node ↔ InClosure paths path ∧ node.path = path
  parents : ∀ node ∈ tree.namespaces, node.isRoot = false →
    ∃ parent ∈ tree.namespaces, node.parentPath = some parent.path

theorem spans_ofPaths (paths : List (List String)) : (ofPaths paths).Spans paths := by
  constructor
  case increasing =>
    rw [paths_namespaces]
    exact (ofPaths paths).sorted_paths
  case root_first =>
    rw [paths_namespaces]
    exact head?_paths
  case listed =>
    intro path
    rw [paths_namespaces]
    exact mem_ofPaths_iff
  case found =>
    intro path node
    rw [get?_eq_some_iff, mem_ofPaths_iff]
    rfl
  case parents =>
    intro node kept inner
    exact (prefixClosed_ofPaths paths).exists_parent kept inner

/-- The tree of a list of paths has its prefix closure for nodes, and depends on nothing else: neither
the order of the paths nor their number counts. -/
theorem ofPaths_is_closure (paths : List (List String)) :
    (ofPaths paths).Spans paths ∧
      ∀ others, ofPaths paths = ofPaths others ↔
        ∀ path, InClosure paths path ↔ InClosure others path := by
  constructor
  · exact spans_ofPaths paths
  · intro others
    constructor
    · intro same path
      have listed := (spans_ofPaths paths).listed path
      rw [same] at listed
      exact listed.symm.trans ((spans_ofPaths others).listed path)
    · intro same
      refine ext_paths fun path => ?_
      rw [mem_ofPaths_iff, mem_ofPaths_iff]
      exact same path

end NamespaceTree
end TypeGraph
