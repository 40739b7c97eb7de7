import TypeGraph.Document.Problem

/-! Reading a tree. An alias is followed only where its content is asked for, and whoever reads a
document may follow only so many of them. -/
namespace TypeGraph

/-- A reading fails, or it gives a value and the number of aliases that may still be followed. -/
abbrev Reading := StateT Nat (Except Problem)

namespace Reading
variable {α : Type}

def fail (problem : Problem) : Reading α := throw problem

/-- Follow one alias, if any more may be followed. -/
def spend : Reading Unit := fun allowance =>
  match allowance with
  | 0 => .error .syntaxError
  | allowance + 1 => .ok ((), allowance)

end Reading

/-- The tree behind the aliases. -/
def Tree.follow : Tree → Reading Tree
  | .aliasOf content => do
    Reading.spend
    content.follow
  | tree => return tree

end TypeGraph
