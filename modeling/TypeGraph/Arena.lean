import TypeGraph.NameIndex
import TypeGraph.TypeDef

/-! Types by their names. A list keeps the order of the types and an index leads from each name to its
position, so no name is searched for, and no two types have a name in common. -/
namespace TypeGraph

structure Arena where
  types : List TypeDef
  /-- Where the type of each name stands. -/
  index : Dictionary Nat
  inStep : index.Indexes (types.map (·.name))
  deriving DecidableEq

namespace Arena

variable {arena : Arena} {name : String} {position : Nat}

theorem lt_length (found : arena.index.get? name = some position) :
    position < arena.types.length := by
  simpa using arena.inStep.lt_length found

/-- The type of a name, at the position that the index has for it. -/
def type? (arena : Arena) : Scope := fun name =>
  match found : arena.index.get? name with
  | some position => some (arena.types.get ⟨position, lt_length found⟩)
  | none => none

/-- Types of different names. -/
def ofTypes (types : List TypeDef) (distinct : (types.map (·.name)).Nodup) : Arena where
  types := types
  index := Dictionary.positions (types.map (·.name))
  inStep := .ofNames distinct

/-- Put a type of a new name behind the others. -/
def push (arena : Arena) (type : TypeDef) (fresh : arena.index.contains type.name = false) :
    Arena where
  types := arena.types ++ [type]
  index := arena.index.insert type.name arena.types.length
  inStep := by
    have next := arena.inStep.push (arena.inStep.contains_eq_false_iff.mp fresh)
    simpa using next

end Arena
end TypeGraph
