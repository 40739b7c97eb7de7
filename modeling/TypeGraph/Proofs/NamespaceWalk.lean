import TypeGraph.Proofs.NamespaceChildren

/-! The walk of a tree from the root downwards, depth first. A tree is listed by the order of its paths
and its parts are found by scans along that order; still the listing is the walk, since all that is
below a namespace stands together, right behind it. -/
namespace TypeGraph.NamespaceTree

variable {tree : NamespaceTree} {ns child : Namespace} {path : List String}

/-- From a namespace to a child of it, fewer nodes are left behind it in the listing. -/
theorem fewer_behind_child (member : child ∈ tree.children ns) :
    (tree.paths.filter (child.path < ·)).length < (tree.paths.filter (ns.path < ·)).length := by
  have less := lt_of_mem_children member
  have kept := mem_namespaces_iff.mp (mem_children_iff.mp member).1
  have nested : tree.paths.filter (child.path < ·) =
      (tree.paths.filter (ns.path < ·)).filter (child.path < ·) := by
    rw [List.filter_filter]
    refine List.filter_congr fun path _ => ?_
    by_cases behind : child.path < path
    · simp [behind, List.lt_trans less behind]
    · simp [behind]
  rw [nested, List.length_filter_lt_length_iff_exists]
  have notBehind : ¬decide (child.path < child.path) = true := fun behind =>
    List.lt_irrefl child.path (of_decide_eq_true behind)
  exact ⟨child.path, List.mem_filter.mpr ⟨kept, by simpa using less⟩, notBehind⟩

/-- The namespaces from one downwards: it comes first, and then each of its children with all that is
below that child. -/
def walk (tree : NamespaceTree) (ns : Namespace) : List Namespace :=
  ns :: (tree.children ns).attach.flatMap fun ⟨child, _⟩ => tree.walk child
termination_by (tree.paths.filter (ns.path < ·)).length
decreasing_by exact fewer_behind_child ‹_›

theorem walk_eq (tree : NamespaceTree) (ns : Namespace) :
    tree.walk ns = ns :: (tree.children ns).flatMap tree.walk := by
  rw [walk]
  simp

/-- The paths of the nodes at a path or below it, in their order. -/
def below (tree : NamespaceTree) (path : List String) : List (List String) :=
  tree.paths.filter (path.isPrefixOf ·)

theorem mem_below_iff {other : List String} :
    other ∈ tree.below path ↔ other ∈ tree.paths ∧ path <+: other := by
  simp [below]

theorem sorted_below : (tree.below path).Pairwise (· < ·) := tree.sorted_paths.filter _

/-- A namespace and all that is below it, child by child, stand in the order of their paths. -/
theorem sorted_below_children (tree : NamespaceTree) (ns : Namespace) :
    (ns.path :: (tree.children ns).flatMap fun child => tree.below child.path).Pairwise (· < ·) := by
  refine List.pairwise_cons.mpr ⟨?_, List.pairwise_flatMap.mpr ⟨?_, ?_⟩⟩
  · intro path found
    obtain ⟨child, member, extension⟩ := List.mem_flatMap.mp found
    exact lt_of_lt_of_initial (lt_of_mem_children member) (mem_below_iff.mp extension).2
  · intro child _
    exact sorted_below
  · refine sorted_children.imp_of_mem fun {first second} left right less path found other others => ?_
    have apart : first.path ≠ second.path := fun same => List.lt_irrefl _ (same ▸ less)
    have before := lt_of_extends less (not_prefix_of_children left right apart)
      (mem_below_iff.mp found).2
    exact lt_of_lt_of_initial before (mem_below_iff.mp others).2

theorem PrefixClosed.below_eq (closed : tree.PrefixClosed) (kept : ns ∈ tree.namespaces) :
    tree.below ns.path = ns.path :: (tree.children ns).flatMap fun child => tree.below child.path := by
  refine List.Pairwise.eq_of_mem_iff sorted_below (sorted_below_children tree ns) fun path => ?_
  rw [mem_below_iff, List.mem_cons, List.mem_flatMap]
  constructor
  · intro found
    obtain ⟨member, extension⟩ := found
    refine ((closed.extends_iff member).mp extension).imp_right ?_
    intro found
    obtain ⟨child, below, extension⟩ := found
    exact ⟨child, below, mem_below_iff.mpr ⟨member, extension⟩⟩
  · intro found
    rcases found with rfl | ⟨child, member, below⟩
    · exact ⟨mem_namespaces_iff.mp kept, List.prefix_rfl⟩
    · obtain ⟨here, extension⟩ := mem_below_iff.mp below
      exact ⟨here, (mem_children_iff.mp member).2.1.trans extension⟩

/-- The walk from a node lists the node and all that is below it, in the order of their paths. -/
theorem PrefixClosed.walk_paths (closed : tree.PrefixClosed) (kept : ns ∈ tree.namespaces) :
    (tree.walk ns).map (·.path) = tree.below ns.path := by
  induction ns using walk.induct tree with
  | case1 ns ih =>
    rw [walk_eq, List.map_cons, List.map_flatMap, closed.below_eq kept]
    refine congrArg (ns.path :: ·) (List.flatMap_congr fun child member => ?_)
    exact ih child member (mem_children_iff.mp member).1

theorem PrefixClosed.walk_root (closed : tree.PrefixClosed) :
    tree.walk ⟨[]⟩ = tree.namespaces := by
  have walked := closed.walk_paths (mem_namespaces_iff.mpr tree.rooted_paths)
  have everything : tree.below [] = tree.paths := by simp [below]
  rw [everything, ← paths_namespaces tree] at walked
  exact List.map_injective_iff.mpr Namespace.path_injective walked

/-- The root is a node, and the walk from it is the listing of the tree: it comes to every node once,
and to nothing else. -/
theorem listing_is_walk (paths : List (List String)) :
    (ofPaths paths).get? [] = some ⟨[]⟩ ∧
      (ofPaths paths).walk ⟨[]⟩ = (ofPaths paths).namespaces ∧
      ∀ ns, ((ofPaths paths).walk ⟨[]⟩).count ns =
        if ns ∈ (ofPaths paths).namespaces then 1 else 0 := by
  have listing := (prefixClosed_ofPaths paths).walk_root
  refine ⟨get?_eq_some_iff.mpr ⟨(ofPaths paths).rooted_paths, rfl⟩, listing, fun ns => ?_⟩
  rw [listing]
  exact nodup_namespaces.count

/-- Segments are compared whole, so what is below a stands before a!, and the empty segment comes first. -/
example : (ofPaths [["a", "b"], ["a!"], [""]]).walk ⟨[]⟩ =
    [⟨[]⟩, ⟨[""]⟩, ⟨["a"]⟩, ⟨["a", "b"]⟩, ⟨["a!"]⟩] := by cbv

end TypeGraph.NamespaceTree
