import Std.Data.TreeMap.Basic
import TypeGraph.Yaml.Node

/-! Aliases: a node that stands for an earlier one. Both go by number. The number of an anchor is how
many names were in use before it, and an alias has the number that its name was given last. Of several
nodes with one number the last in the document is meant, by earlier aliases too. -/
namespace TypeGraph.Yaml

/-- A tree without aliases, or one that is complete once it is known what each number stands for. -/
inductive Pending where
  | ready (tree : Tree)
  | waiting (build : Array Tree → Tree)

namespace Pending

def ready? : Pending → Option Tree
  | ready tree => some tree
  | waiting _ => none

def fill (trees : Array Tree) : Pending → Tree
  | ready tree => tree
  | waiting build => build trees

/-- The tree of a number. -/
def ofNumber (number : Nat) : Pending := waiting fun trees => .aliasOf (trees.getD number .broken)

/-- A tree made of others. -/
def ofItems (make : List Tree → Tree) (items : List Pending) : Pending :=
  match items.mapM ready? with
  | some trees => ready (make trees)
  | none => waiting fun trees => make (items.map (fill trees))

/-- A tree made of pairs of others. -/
def ofEntries (make : List (Tree × Tree) → Tree) (entries : List (Pending × Pending)) : Pending :=
  match entries.mapM fun (key, value) => return (← key.ready?, ← value.ready?) with
  | some trees => ready (make trees)
  | none =>
    waiting fun trees => make (entries.map fun (key, value) => (key.fill trees, value.fill trees))

end Pending

/-- A node with an anchor. -/
structure Anchored where
  /-- How many nodes with an anchor start before it. -/
  position : Nat
  number : Nat
  pending : Pending

/-- The anchors met so far. -/
structure Anchors where
  /-- The number that each name was given last. -/
  numbers : Std.TreeMap String Nat := ∅
  /-- How many nodes with an anchor have started. -/
  started : Nat := 0
  /-- Those that have ended. -/
  nodes : List Anchored := []

namespace Anchors

/-- Announce an anchor before its node is read. -/
def announce (anchors : Anchors) : Option String → Anchors
  | some name =>
    { anchors with
      numbers := anchors.numbers.insert name anchors.numbers.size
      started := anchors.started + 1 }
  | none => anchors

/-- Give the anchor that was announced after `before` its node. -/
def settle (anchors before : Anchors) (pending : Pending) : Option String → Anchors
  | some _ =>
    { anchors with nodes := ⟨before.started, before.numbers.size, pending⟩ :: anchors.nodes }
  | none => anchors

/-- The node of two with the same number that starts later. -/
def later (node : Anchored) : Option Anchored → Anchored
  | some other => if other.position < node.position then node else other
  | none => node

/-- What each number stands for. No number is greater than that of the names. -/
def meanings (anchors : Anchors) : Array Pending :=
  let last := anchors.nodes.foldl (fun found node =>
    found.modify node.number fun other => some (later node other))
    (Array.replicate (anchors.numbers.size + 1) none)
  last.map fun node => node.elim (.ready .broken) Anchored.pending

end Anchors

/-- Put a tag on a tree. -/
def Properties.apply (properties : Properties) (tree : Tree) : Tree :=
  match properties.tag with
  | some tag => .tagged tag tree
  | none => tree

namespace Node

mutual

/-- Find the number of every alias in a node. A name without an anchor is an error. -/
def resolve (anchors : Anchors) : Node → Option (Pending × Anchors)
  | aliasOf name => do
    let number ← anchors.numbers[name]?
    return (.ofNumber number, anchors)
  | scalar properties style text =>
    let pending := Pending.ready (properties.apply (.untyped style text))
    some (pending, (anchors.announce properties.anchor).settle anchors pending properties.anchor)
  | seq properties items => do
    let (items, after) ← resolveItems (anchors.announce properties.anchor) items
    let pending := Pending.ofItems (fun trees => properties.apply (.seq trees true)) items
    return (pending, after.settle anchors pending properties.anchor)
  | map properties entries => do
    let (entries, after) ← resolveEntries (anchors.announce properties.anchor) entries
    let pending := Pending.ofEntries (fun trees => properties.apply (.map trees true)) entries
    return (pending, after.settle anchors pending properties.anchor)

def resolveItems (anchors : Anchors) : List Node → Option (List Pending × Anchors)
  | [] => some ([], anchors)
  | item :: rest => do
    let (item, anchors) ← resolve anchors item
    let (items, anchors) ← resolveItems anchors rest
    return (item :: items, anchors)

def resolveEntries (anchors : Anchors) :
    List (Node × Node) → Option (List (Pending × Pending) × Anchors)
  | [] => some ([], anchors)
  | (key, value) :: rest => do
    let (key, anchors) ← resolve anchors key
    let (value, anchors) ← resolve anchors value
    let (entries, anchors) ← resolveEntries anchors rest
    return ((key, value) :: entries, anchors)

end

mutual

/-- Marks in the text that begin or end a node: one for a scalar or an alias, two for a collection. -/
def size : Node → Nat
  | aliasOf _ | scalar _ _ _ => 1
  | seq _ items => 2 + sizeOfItems items
  | map _ entries => 2 + sizeOfEntries entries

def sizeOfItems : List Node → Nat
  | [] => 0
  | item :: rest => item.size + sizeOfItems rest

def sizeOfEntries : List (Node × Node) → Nat
  | [] => 0
  | (key, value) :: rest => key.size + value.size + sizeOfEntries rest

end

/-- The trees of the numbers, with aliases inside each other to a given depth. -/
def unfold (meanings : Array Pending) : Nat → Array Tree
  | 0 => #[]
  | depth + 1 =>
    let trees := unfold meanings depth
    meanings.map (·.fill trees)

/-- The tree of a document. A node may be an alias's and have that alias in it: aliases inside each
other are unfolded as far as anyone can read, each of them being in a container of its own. -/
def tree? (node : Node) : Option Tree := do
  let (pending, anchors) ← node.resolve {}
  return pending.fill (unfold anchors.meanings (Dialect.yaml.depthLimit + 1))

/-- How many aliases the reader of a document may follow: a hundred for each mark in it. -/
def allowance (node : Node) : Nat := 100 * node.size

end Node
end TypeGraph.Yaml
