import TypeGraph.Arena
import TypeGraph.Finding

/-! The types that a list of declarations gives a model. Names are unique: the first declaration of
a name stays and a later one is turned away, as is one that takes a built-in scalar's name. -/
namespace TypeGraph

/-- The types admitted so far, and what was wrong with the declarations turned away. -/
structure Registry extends Arena where
  conflicts : List Diagnostic
  deriving DecidableEq

namespace Registry

/-- The built-in scalars alone. -/
def builtIn : Registry where
  toArena := .ofTypes (BuiltIn.all.map .builtIn) BuiltIn.nodup_names
  conflicts := []

/-- Why a declaration has no place beside the types, if it has none. -/
def conflict? (arena : Arena) (decl : TypeDecl) : Option Finding :=
  if BuiltIn.isName decl.name then some (.reservedTypeName decl.name)
  else if arena.index.contains decl.name then some (.duplicateTypeName decl.name)
  else none

theorem contains_eq_false {arena : Arena} {decl : TypeDecl} (free : conflict? arena decl = none) :
    arena.index.contains decl.name = false := by
  unfold conflict? at free
  split at free
  · cases free
  · simpa using free

def add (registry : Registry) (decl : TypeDecl) : Registry :=
  match verdict : conflict? registry.toArena decl with
  | some finding =>
    { registry with conflicts := registry.conflicts ++ [⟨finding, decl.location⟩] }
  | none =>
    { registry with toArena := registry.push (.declared decl) (contains_eq_false verdict) }

def ofDecls (decls : List TypeDecl) : Registry := decls.foldl add builtIn

end Registry
end TypeGraph
