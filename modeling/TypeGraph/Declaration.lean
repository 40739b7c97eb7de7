import TypeGraph.Dictionary
import TypeGraph.Kind
import TypeGraph.Location

/-! What the author of a model writes down: types with their fields and values, permission profiles
by name, and labels in several languages. Declarations refer to each other by name only, and nothing
here says whether those names make sense. -/
namespace TypeGraph

/-- A field of an object type. -/
structure FieldDecl where
  name : String
  typeName : String
  isList : Bool := false
  /-- Points to a root entity by its key. -/
  isReference : Bool := false
  /-- Links to root entities; the link is seen from both ends. -/
  isRelation : Bool := false
  /-- The field of the target type whose other end this field is. -/
  inverseOf : Option String := none
  description : Option String := none
  location : Option SourceLocation := none
  deriving DecidableEq, Repr

/-- An object type of any of the four kinds. A key field and a permission profile make sense on root
entities only. -/
structure ObjectDecl where
  name : String
  description : Option String := none
  /-- Segments of the namespace; none for the root namespace. -/
  namespacePath : List String := []
  fields : List FieldDecl := []
  keyFieldName : Option String := none
  permissionProfile : Option String := none
  location : Option SourceLocation := none
  deriving DecidableEq, Repr

/-- A literal of an enum type. -/
structure EnumValueDecl where
  value : String
  description : Option String := none
  deprecationReason : Option String := none
  location : Option SourceLocation := none
  deriving DecidableEq, Repr

/-- A leaf type with a closed list of literals. -/
structure EnumDecl where
  name : String
  description : Option String := none
  values : List EnumValueDecl := []
  location : Option SourceLocation := none
  deriving DecidableEq, Repr

/-- A leaf type without structure. -/
structure ScalarDecl where
  name : String
  description : Option String := none
  location : Option SourceLocation := none
  deriving DecidableEq, Repr

inductive TypeDecl where
  | object (kind : ObjectKind) (decl : ObjectDecl)
  | enum (decl : EnumDecl)
  | scalar (decl : ScalarDecl)
  deriving DecidableEq, Repr

namespace TypeDecl

def name : TypeDecl → String
  | object _ decl => decl.name
  | enum decl => decl.name
  | scalar decl => decl.name

def kind : TypeDecl → Kind
  | object kind _ => .object kind
  | enum _ => .enum
  | scalar _ => .scalar

def description : TypeDecl → Option String
  | object _ decl => decl.description
  | enum decl => decl.description
  | scalar decl => decl.description

def location : TypeDecl → Option SourceLocation
  | object _ decl => decl.location
  | enum decl => decl.location
  | scalar decl => decl.location

def object? : TypeDecl → Option ObjectDecl
  | object _ decl => some decl
  | enum _ | scalar _ => none

/-- The fields that the type declares, if it is one that owns fields. -/
def fields : TypeDecl → List FieldDecl
  | object _ decl => decl.fields
  | enum _ | scalar _ => []

/-- The values that the type declares, if it is an enum. -/
def values : TypeDecl → List EnumValueDecl
  | enum decl => decl.values
  | object _ _ | scalar _ => []

end TypeDecl

/-- What a permission lets its roles do. -/
inductive Access where
  | read
  | readWrite
  deriving DecidableEq, Repr

def Access.name : Access → String
  | read => "read"
  | readWrite => "readWrite"

def Access.allowsWrite : Access → Bool
  | read => false
  | readWrite => true

/-- Grants an access to each of its roles. -/
structure Permission where
  roles : List String
  access : Access
  deriving DecidableEq, Repr

/-- A list of permissions that root entities can name. -/
structure ProfileDecl where
  permissions : List Permission := []
  location : Option SourceLocation := none
  deriving DecidableEq, Repr

/-- What a field or an enum value is called in a language. -/
structure Labels where
  label : Option String := none
  hint : Option String := none
  deriving DecidableEq

/-- What a type, its fields and its values are called in a language. -/
structure TypeLabels where
  label : Option String := none
  labelPlural : Option String := none
  hint : Option String := none
  fields : Dictionary Labels := ∅
  values : Dictionary Labels := ∅
  deriving DecidableEq

/-- Labels in one language. Several bundles may share a language. -/
structure Bundle where
  language : String
  types : Dictionary TypeLabels := ∅
  location : Option SourceLocation := none
  deriving DecidableEq

/-- All declarations of a model. -/
structure Declarations where
  types : List TypeDecl := []
  profiles : Dictionary ProfileDecl := ∅
  bundles : List Bundle := []
  deriving DecidableEq

namespace Declarations

def empty : Declarations := {}

instance : EmptyCollection Declarations := ⟨empty⟩
instance : Inhabited Declarations := ⟨empty⟩

/-- The declarations of `later` after these. Types and bundles are listed one after the other; a
profile of `later` replaces the profile of the same name. -/
def merge (declarations later : Declarations) : Declarations where
  types := declarations.types ++ later.types
  profiles := declarations.profiles.override later.profiles
  bundles := declarations.bundles ++ later.bundles

/-- Merge sources in their order. -/
def mergeAll (sources : List Declarations) : Declarations := sources.foldl merge empty

end Declarations
end TypeGraph
