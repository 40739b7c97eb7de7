import TypeGraph.Proofs.Namespaces
import Mathlib.Data.List.TakeWhile

/-! The order of paths, and the scan that finds the children of a namespace. A path stands before all
that extend it, and what stands between a path and one of its extensions extends it too. So the scan
meets every extension before it stops, and it finds the children in any tree, of whatever namespace. -/
namespace TypeGraph.NamespaceTree

variable {path other between longer : List String}

/-- What lies between a path and an extension of it is an extension of it. -/
theorem prefix_of_between (initial : path <+: other) (above : ¬between < path)
    (below : ¬other < between) : path <+: between := by
  induction path generalizing other between with
  | nil => exact List.nil_prefix
  | cons segment rest ih =>
    obtain ⟨tail, rfl⟩ := initial
    rw [List.cons_append] at below
    cases between with
    | nil => exact absurd (List.nil_lt_cons segment rest) above
    | cons next later =>
      have notGreater : ¬next < segment := fun less => above (List.cons_lt_cons_iff.mpr (.inl less))
      have notLess : ¬segment < next := fun less => below (List.cons_lt_cons_iff.mpr (.inl less))
      have same : segment = next :=
        String.le_antisymm (String.not_lt.mp notGreater) (String.not_lt.mp notLess)
      subst next
      refine (List.prefix_cons_inj segment).mpr (ih (List.prefix_append rest tail) ?_ ?_)
      · exact fun less => above (List.cons_lt_cons_iff.mpr (.inr ⟨rfl, less⟩))
      · exact fun less => below (List.cons_lt_cons_iff.mpr (.inr ⟨rfl, less⟩))

/-- A path stands before all that extend it. -/
theorem lt_of_initial (initial : path <+: other) (apart : path ≠ other) : path < other := by
  rcases Decidable.em (path < other) with less | notLess
  · exact less
  · exact absurd (List.le_antisymm initial.le (List.not_lt.mp notLess)) apart

theorem lt_of_lt_of_initial (less : path < other) (initial : other <+: longer) : path < longer := by
  by_cases same : other = longer
  · exact same ▸ less
  · exact List.lt_trans less (lt_of_initial initial same)

/-- What stands before a path without being on the way to it stands so with all that extends it. -/
theorem lt_of_extends (less : path < other) (apart : ¬path <+: other) (initial : path <+: longer) :
    longer < other := by
  rcases Decidable.em (longer < other) with before | behind
  · exact before
  · have above : ¬other < path := fun greater => List.lt_irrefl path (List.lt_trans less greater)
    exact absurd (prefix_of_between initial above behind) apart

variable {paths : List (List String)}

/-- From a path on, its extensions come first. -/
theorem takeWhile_eq_filter (sorted : paths.Pairwise (· < ·)) (above : ∀ later ∈ paths, ¬later < path) :
    paths.takeWhile (path.isPrefixOf ·) = paths.filter (path.isPrefixOf ·) := by
  induction paths with
  | nil => rfl
  | cons head rest ih =>
    obtain ⟨below, sorted⟩ := List.pairwise_cons.mp sorted
    by_cases initial : path <+: head
    · have later := ih sorted fun next member => above next (List.mem_cons_of_mem _ member)
      have kept : path.isPrefixOf head = true := List.isPrefixOf_iff_prefix.mpr initial
      rw [List.takeWhile_cons_of_pos kept, List.filter_cons_of_pos kept, later]
    · have left : ¬path.isPrefixOf head = true := fun kept =>
        initial (List.isPrefixOf_iff_prefix.mp kept)
      have none : rest.filter (path.isPrefixOf ·) = [] := by
        rw [List.filter_eq_nil_iff]
        intro next member kept
        have behind : ¬next < head := fun less =>
          List.lt_irrefl head (List.lt_trans (below next member) less)
        exact initial (prefix_of_between (List.isPrefixOf_iff_prefix.mp kept)
          (above head List.mem_cons_self) behind)
      rw [List.takeWhile_cons_of_neg left, List.filter_cons_of_neg left, none]

/-- The scan along increasing paths finds all extensions of a path, whether it is among them or not. -/
theorem scan_eq_filter (sorted : paths.Pairwise (· < ·)) :
    (paths.dropWhile (· < path)).takeWhile (path.isPrefixOf ·) =
      paths.filter (path.isPrefixOf ·) := by
  induction paths with
  | nil => rfl
  | cons head rest ih =>
    obtain ⟨below, later⟩ := List.pairwise_cons.mp sorted
    by_cases before : head < path
    · have left : ¬path.isPrefixOf head = true := fun kept =>
        List.not_lt.mpr (List.isPrefixOf_iff_prefix.mp kept).le before
      rw [List.dropWhile_cons_of_pos (by simpa using before), List.filter_cons_of_neg left, ih later]
    · rw [List.dropWhile_cons_of_neg (by simpa using before)]
      refine takeWhile_eq_filter sorted fun next member => ?_
      rcases List.mem_cons.mp member with rfl | member
      · exact before
      · exact fun less => before (List.lt_trans (below next member) less)

/-- Behind the scan nothing extends the path: the scan has taken as many as there are. -/
theorem filter_behind_scan (sorted : paths.Pairwise (· < ·)) :
    ((paths.dropWhile (· < path)).dropWhile (path.isPrefixOf ·)).filter (path.isPrefixOf ·) = [] := by
  have parts : (paths.dropWhile (· < path)).filter (path.isPrefixOf ·) =
      (paths.dropWhile (· < path)).takeWhile (path.isPrefixOf ·) ++
        ((paths.dropWhile (· < path)).dropWhile (path.isPrefixOf ·)).filter (path.isPrefixOf ·) := by
    have taken := List.filter_eq_self.mpr fun other (member : other ∈
      (paths.dropWhile (· < path)).takeWhile (path.isPrefixOf ·)) => List.mem_takeWhile_imp member
    rw [← taken, ← List.filter_append, List.takeWhile_append_dropWhile]
  have few := ((List.dropWhile_sublist (· < path) (l := paths)).filter
    (path.isPrefixOf ·)).length_le
  rw [parts, ← scan_eq_filter sorted, List.length_append] at few
  exact List.length_eq_zero_iff.mp (by omega)

variable {tree : NamespaceTree} {ns child first second : Namespace}

/-- The scan along the nodes is one along their paths. -/
theorem children_eq_scan : tree.children ns =
    (((tree.paths.dropWhile (· < ns.path)).takeWhile (ns.path.isPrefixOf ·)).filter
      (·.length == ns.path.length + 1)).map Namespace.mk := by
  rw [children, nodes_eq, List.dropWhile_map, List.map_map, List.takeWhile_map, List.filter_map]
  rfl

/-- The children of a namespace are the nodes one segment below it, in the order of their paths. -/
theorem children_eq : tree.children ns = (tree.paths.filter fun path =>
    ns.path.isPrefixOf path && path.length == ns.path.length + 1).map Namespace.mk := by
  rw [children_eq_scan, scan_eq_filter tree.sorted_paths, List.filter_filter]
  simp only [Bool.and_comm]

theorem mem_children_iff : child ∈ tree.children ns ↔
    child ∈ tree.namespaces ∧ ns.path <+: child.path ∧ child.path.length = ns.path.length + 1 := by
  rw [children_eq, List.mem_map, mem_namespaces_iff]
  simp only [List.mem_filter, Bool.and_eq_true, List.isPrefixOf_iff_prefix, beq_iff_eq]
  constructor
  · rintro ⟨path, found, rfl⟩
    exact found
  · intro found
    exact ⟨child.path, found, rfl⟩

theorem sorted_children : (tree.children ns).Pairwise (·.path < ·.path) := by
  rw [children_eq]
  exact List.pairwise_map.mpr (tree.sorted_paths.filter _)

theorem lt_of_mem_children (member : child ∈ tree.children ns) : ns.path < child.path := by
  obtain ⟨_, below, longer⟩ := mem_children_iff.mp member
  refine lt_of_initial below fun same => ?_
  rw [same] at longer
  exact absurd longer (Nat.ne_of_lt (Nat.lt_succ_self _))

/-- No child of a namespace lies on the way to another. -/
theorem not_prefix_of_children (left : first ∈ tree.children ns) (right : second ∈ tree.children ns)
    (apart : first.path ≠ second.path) : ¬first.path <+: second.path := by
  obtain ⟨_, _, leftLength⟩ := mem_children_iff.mp left
  obtain ⟨_, _, rightLength⟩ := mem_children_iff.mp right
  intro initial
  exact apart (initial.eq_of_length (leftLength.trans rightLength.symm))

/-- What is below a namespace is below exactly one of its children. -/
theorem eq_of_children (left : first ∈ tree.children ns) (right : second ∈ tree.children ns)
    (leftBelow : first.path <+: path) (rightBelow : second.path <+: path) : first = second := by
  obtain ⟨_, _, leftLength⟩ := mem_children_iff.mp left
  obtain ⟨_, _, rightLength⟩ := mem_children_iff.mp right
  have level : first.path.length = second.path.length := leftLength.trans rightLength.symm
  have initial := List.prefix_of_prefix_length_le leftBelow rightBelow level.le
  exact Namespace.path_injective (initial.eq_of_length level)

/-- In a closed tree the way from a namespace to a node leads over a child. -/
theorem PrefixClosed.extends_iff (closed : tree.PrefixClosed) (kept : path ∈ tree.paths) :
    ns.path <+: path ↔ path = ns.path ∨ ∃ child ∈ tree.children ns, child.path <+: path := by
  constructor
  · intro initial
    rcases Nat.lt_or_eq_of_le initial.length_le with shorter | same
    · -- the child is the beginning of the path that is one segment longer than the namespace's
      refine .inr ⟨⟨path.take (ns.path.length + 1)⟩, mem_children_iff.mpr ⟨?_, ?_, ?_⟩, ?_⟩
      · exact mem_namespaces_iff.mpr (closed kept (List.take_prefix ..))
      · refine List.prefix_of_prefix_length_le initial (List.take_prefix ..) ?_
        simp only [List.length_take]
        omega
      · simp only [List.length_take]
        omega
      · exact List.take_prefix ..
    · exact .inl (initial.eq_of_length same).symm
  · intro found
    rcases found with rfl | ⟨child, member, below⟩
    · exact List.prefix_rfl
    · exact (mem_children_iff.mp member).2.1.trans below

end TypeGraph.NamespaceTree

namespace TypeGraph

namespace Namespace

variable {child ns : Namespace}

/-- The path is that of the other namespace followed by one more segment. -/
def IsChildOf (child ns : Namespace) : Prop := ∃ segment, child.path = ns.path ++ [segment]

theorem isChildOf_iff_parentPath : child.IsChildOf ns ↔ child.parentPath = some ns.path := by
  unfold IsChildOf parentPath isRoot
  constructor
  · intro below
    obtain ⟨segment, longer⟩ := below
    simp [longer]
  · intro above
    cases last : child.path.getLast? with
    | none => simp [List.getLast?_eq_none_iff.mp last] at above
    | some segment =>
      have whole := List.dropLast_append_getLast? segment last
      have inner : child.path.isEmpty = false := by
        rw [← whole]
        simp
      rw [inner] at above
      have parent : child.path.dropLast = ns.path := by simpa using above
      exact ⟨segment, parent ▸ whole.symm⟩

instance : Decidable (child.IsChildOf ns) := decidable_of_iff _ isChildOf_iff_parentPath.symm

theorem isChildOf_iff_length : child.IsChildOf ns ↔
    ns.path <+: child.path ∧ child.path.length = ns.path.length + 1 := by
  constructor
  · intro below
    obtain ⟨segment, longer⟩ := below
    rw [longer]
    exact ⟨List.prefix_append .., by simp⟩
  · intro found
    obtain ⟨⟨rest, whole⟩, longer⟩ := found
    have single : rest.length = 1 := by
      rw [← whole, List.length_append] at longer
      omega
    obtain ⟨segment, rfl⟩ := List.length_eq_one_iff.mp single
    exact ⟨segment, whole.symm⟩

end Namespace

namespace NamespaceTree

variable {tree : NamespaceTree} {ns : Namespace}

theorem children_eq_filter : tree.children ns = tree.namespaces.filter (·.IsChildOf ns) := by
  rw [children_eq, namespaces_eq, List.filter_map]
  refine congrArg (List.map Namespace.mk) (List.filter_congr fun path _ => ?_)
  rw [Bool.eq_iff_iff]
  simp [Namespace.isChildOf_iff_length]

/-- The nodes from where the scan for the children of a namespace stops. -/
def behindScan (tree : NamespaceTree) (ns : Namespace) : List Namespace :=
  ((tree.nodes.dropWhile (·.1 < ns.path)).map (·.2)).dropWhile (ns.path.isPrefixOf ·.path)

/-- Nothing that extends the namespace is left. -/
theorem filter_behindScan : (tree.behindScan ns).filter (ns.path.isPrefixOf ·.path) = [] := by
  have along : tree.behindScan ns = ((tree.paths.dropWhile (· < ns.path)).dropWhile
      (ns.path.isPrefixOf ·)).map Namespace.mk := by
    simp only [behindScan, nodes_eq, List.dropWhile_map, List.map_map, Function.comp_def]
  rw [along, List.filter_map, List.map_eq_nil_iff]
  exact filter_behind_scan tree.sorted_paths

/-- The scan for the children of any namespace, of the tree or not, finds the nodes that are one
segment below it, in the order of their paths. Behind the point where it stops nothing extends the
namespace. -/
theorem scan_finds_children (paths : List (List String)) (ns : Namespace) :
    (ofPaths paths).children ns = (ofPaths paths).namespaces.filter (·.IsChildOf ns) ∧
      ((ofPaths paths).children ns).Pairwise (·.path < ·.path) ∧
      ((ofPaths paths).behindScan ns).filter (ns.path.isPrefixOf ·.path) = [] :=
  ⟨children_eq_filter, sorted_children, filter_behindScan⟩

end NamespaceTree
end TypeGraph
