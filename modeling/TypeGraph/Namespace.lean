import TypeGraph.Text.Split

/-! Namespaces: the paths that types are filed under, and all that lie on the way to them. -/
namespace TypeGraph

/-- A namespace is its path from the root, which is the empty path. -/
structure Namespace where
  path : List String
  deriving DecidableEq, Repr

namespace Namespace

/-- The last segment; the root has none. -/
def name (ns : Namespace) : Option String := ns.path.getLast?

def isRoot (ns : Namespace) : Bool := ns.path.isEmpty

/-- The path without its last segment; the root has no parent. -/
def parentPath (ns : Namespace) : Option (List String) :=
  if ns.isRoot then none else some ns.path.dropLast

/-- The segments with dots between them; empty at the root. -/
def dotted (ns : Namespace) : String := String.intercalate "." ns.path

/-- The path that a dotted name spells; an empty name is the root. -/
def pathOfDotted (dotted : String) : List String :=
  if dotted = "" then [] else Text.split '.' dotted

end Namespace

/-- Nodes in strictly increasing order of their keys, each kept under its own path. The root is always
among them. -/
structure NamespaceTree where
  nodes : List (List String × Namespace)
  sorted : nodes.Pairwise (·.1 < ·.1)
  named : ∀ node ∈ nodes, node.2.path = node.1
  rooted : [] ∈ nodes.map (·.1)
  deriving DecidableEq

namespace NamespaceTree

/-- The nodes with that of a path, where the order wants it; one that is there stays. -/
def insertNode (path : List String) :
    List (List String × Namespace) → List (List String × Namespace)
  | [] => [(path, ⟨path⟩)]
  | node :: rest =>
    if path < node.1 then (path, ⟨path⟩) :: node :: rest
    else if node.1 < path then node :: insertNode path rest
    else node :: rest

variable {path other : List String} {nodes : List (List String × Namespace)}
  {node : List String × Namespace}

theorem eq_or_mem_of_mem_insertNode (member : node ∈ insertNode path nodes) :
    node = (path, ⟨path⟩) ∨ node ∈ nodes := by
  induction nodes with
  | nil => simpa [insertNode] using member
  | cons head rest ih =>
    unfold insertNode at member
    split at member
    · exact List.mem_cons.mp member
    · split at member
      · rcases List.mem_cons.mp member with rfl | later
        · exact .inr List.mem_cons_self
        · exact (ih later).imp_right (List.mem_cons_of_mem _)
      · exact .inr member

theorem mem_keys_insertNode :
    other ∈ (insertNode path nodes).map (·.1) ↔ other = path ∨ other ∈ nodes.map (·.1) := by
  induction nodes with
  | nil => simp [insertNode]
  | cons head rest ih =>
    unfold insertNode
    split
    · simp only [List.map_cons, List.mem_cons]
    · split
      · rw [List.map_cons, List.mem_cons, ih, List.map_cons, List.mem_cons]
        exact or_left_comm
      · next notLess notGreater =>
        have same : path = head.1 :=
          List.le_antisymm (List.not_lt.mp notGreater) (List.not_lt.mp notLess)
        simp only [List.map_cons, List.mem_cons, same, or_self_left]

theorem sorted_insertNode (path : List String) (sorted : nodes.Pairwise (·.1 < ·.1)) :
    (insertNode path nodes).Pairwise (·.1 < ·.1) := by
  induction nodes with
  | nil => simp [insertNode]
  | cons head rest ih =>
    obtain ⟨below, ordered⟩ := List.pairwise_cons.mp sorted
    unfold insertNode
    split
    · next less =>
      refine List.pairwise_cons.mpr ⟨fun node member => ?_, sorted⟩
      rcases List.mem_cons.mp member with rfl | old
      · exact less
      · exact List.lt_trans less (below node old)
    · split
      · next greater =>
        refine List.pairwise_cons.mpr ⟨fun node member => ?_, ih ordered⟩
        rcases eq_or_mem_of_mem_insertNode member with rfl | old
        · exact greater
        · exact below node old
      · exact sorted

theorem named_insertNode (path : List String) (named : ∀ node ∈ nodes, node.2.path = node.1) :
    ∀ node ∈ insertNode path nodes, node.2.path = node.1 := by
  intro node member
  rcases eq_or_mem_of_mem_insertNode member with rfl | old
  · rfl
  · exact named node old

/-- The root alone. -/
def root : NamespaceTree where
  nodes := [([], ⟨[]⟩)]
  sorted := by simp
  named := by simp
  rooted := by simp

instance : Inhabited NamespaceTree := ⟨root⟩

def insert (tree : NamespaceTree) (path : List String) : NamespaceTree where
  nodes := insertNode path tree.nodes
  sorted := sorted_insertNode path tree.sorted
  named := named_insertNode path tree.named
  rooted := mem_keys_insertNode.mpr (.inr tree.rooted)

/-- The non-empty beginnings of a path, shortest first. -/
def prefixes (path : List String) : List (List String) :=
  (List.range path.length).map fun n => path.take (n + 1)

/-- The tree of all given paths and everything between them and the root. -/
def ofPaths (paths : List (List String)) : NamespaceTree :=
  (paths.flatMap prefixes).foldl insert root

/-- All nodes, the root first. -/
def namespaces (tree : NamespaceTree) : List Namespace := tree.nodes.map (·.2)

def size (tree : NamespaceTree) : Nat := tree.nodes.length

def get? (tree : NamespaceTree) (path : List String) : Option Namespace :=
  (tree.nodes.find? (·.1 == path)).map (·.2)

/-- The nodes one segment below a namespace. They stand together: the scan starts at the namespace
and ends at the first node that does not extend it. -/
def children (tree : NamespaceTree) (ns : Namespace) : List Namespace :=
  ((tree.nodes.dropWhile (·.1 < ns.path)).map (·.2)
    |>.takeWhile (ns.path.isPrefixOf ·.path)
    |>.filter (·.path.length == ns.path.length + 1))

end NamespaceTree
end TypeGraph
