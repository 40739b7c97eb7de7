/-! JSON values as the library writes them: numbers are counts and positions, never negative and
never fractions, and an object lists its members in the order they were given. -/
namespace TypeGraph

inductive Json where
  | null
  | bool (value : Bool)
  | num (value : Nat)
  | str (value : String)
  | arr (items : List Json)
  | obj (members : List (String × Json))
  deriving BEq, Repr

namespace Json

/-- A member that is written only when there is a value. -/
def optional {α : Type} (name : String) (write : α → Json) : Option α → List (String × Json)
  | some value => [(name, write value)]
  | none => []

/-- A value, or `null` when there is none. -/
def nullable {α : Type} (write : α → Json) : Option α → Json
  | some value => write value
  | none => null

def list {α : Type} (write : α → Json) (items : List α) : Json := arr (items.map write)

def strings (items : List String) : Json := list str items

end Json
end TypeGraph
