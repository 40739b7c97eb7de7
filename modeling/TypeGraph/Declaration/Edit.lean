import TypeGraph.Declaration

/-! Writing declarations down one by one. -/
namespace TypeGraph

namespace FieldDecl

def list (field : FieldDecl) : FieldDecl := { field with isList := true }

def relation (field : FieldDecl) : FieldDecl := { field with isRelation := true }

def reference (field : FieldDecl) : FieldDecl := { field with isReference := true }

/-- Make the field the other end of `name`, a field of its type. -/
def inverseTo (name : String) (field : FieldDecl) : FieldDecl :=
  { field with inverseOf := some name }

end FieldDecl

namespace ObjectDecl

def inNamespace (path : List String) (decl : ObjectDecl) : ObjectDecl :=
  { decl with namespacePath := path }

def withKeyField (name : String) (decl : ObjectDecl) : ObjectDecl :=
  { decl with keyFieldName := some name }

def addField (field : FieldDecl) (decl : ObjectDecl) : ObjectDecl :=
  { decl with fields := decl.fields ++ [field] }

end ObjectDecl

namespace EnumDecl

/-- An enum of bare literals. -/
def ofLiterals (name : String) (literals : List String) : EnumDecl :=
  { name, values := literals.map fun literal => { value := literal } }

def addValue (value : EnumValueDecl) (decl : EnumDecl) : EnumDecl :=
  { decl with values := decl.values ++ [value] }

end EnumDecl

namespace TypeDecl

/-- Only object types take a field. -/
def addField? (field : FieldDecl) : TypeDecl → Option TypeDecl
  | object kind decl => some (object kind (decl.addField field))
  | enum _ | scalar _ => none

/-- Only enums take a value. -/
def addValue? (value : EnumValueDecl) : TypeDecl → Option TypeDecl
  | enum decl => some (enum (decl.addValue value))
  | object _ _ | scalar _ => none

end TypeDecl

namespace Declarations

/-- Declare one more type after all others. -/
def declare (declarations : Declarations) (decl : TypeDecl) : Declarations :=
  { declarations with types := declarations.types ++ [decl] }

/-- Edit the type declared at a position, if it is there and the edit is possible. -/
def editAt? (declarations : Declarations) (index : Nat) (edit : TypeDecl → Option TypeDecl) :
    Option Declarations := do
  let decl ← declarations.types[index]?
  let edited ← edit decl
  return { declarations with types := declarations.types.set index edited }

end Declarations
end TypeGraph
