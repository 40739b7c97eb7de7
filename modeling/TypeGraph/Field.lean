import TypeGraph.BuiltIn
import TypeGraph.Declaration

/-! Fields as object types own them: those that were declared, and those that every entity has. -/
namespace TypeGraph

structure Field where
  /-- The name of the object type that owns the field. -/
  owner : String
  decl : FieldDecl
  /-- System fields are not declared by anyone. -/
  isSystem : Bool
  deriving DecidableEq, Repr

namespace Field

def name (field : Field) : String := field.decl.name

/-- The name of the field's type, whether there is such a type or not. -/
def typeName (field : Field) : String := field.decl.typeName

def isList (field : Field) : Bool := field.decl.isList

def isReference (field : Field) : Bool := field.decl.isReference

def isRelation (field : Field) : Bool := field.decl.isRelation

def inverseOf (field : Field) : Option String := field.decl.inverseOf

def location (field : Field) : Option SourceLocation := field.decl.location

/-- The field's name behind that of its owner. -/
def qualifiedName (field : Field) : String := field.owner ++ "." ++ field.name

/-- What tells fields apart across a model: the names of the owner and of the field. -/
def key (field : Field) : String × String := (field.owner, field.name)

def ofDecl (owner : String) (decl : FieldDecl) : Field := ⟨owner, decl, false⟩

def system (owner name : String) (type : BuiltIn) : Field :=
  ⟨owner, { name, typeName := type.name }, true⟩

/-- Identity and times of every entity, in their fixed order. -/
def systemFields (owner : String) : List Field :=
  [system owner "id" .id, system owner "createdAt" .dateTime, system owner "updatedAt" .dateTime]

end Field
end TypeGraph
