/-! The scalars that every model has, ahead of all declarations. -/
namespace TypeGraph

inductive BuiltIn where
  | id
  | string
  | boolean
  | int
  | float
  | json
  | dateTime
  deriving DecidableEq, Repr

namespace BuiltIn

def name : BuiltIn → String
  | id => "ID"
  | string => "String"
  | boolean => "Boolean"
  | int => "Int"
  | float => "Float"
  | json => "JSON"
  | dateTime => "DateTime"

/-- The order in which models list them. -/
def all : List BuiltIn := [id, string, boolean, int, float, json, dateTime]

/-- The names that declarations cannot take. -/
def names : List String := all.map name

/-- Whether the name belongs to a built-in scalar. -/
def isName (name : String) : Bool := names.contains name

theorem mem_all (scalar : BuiltIn) : scalar ∈ all := by cases scalar <;> decide

theorem nodup_names : names.Nodup := by decide

end BuiltIn
end TypeGraph
