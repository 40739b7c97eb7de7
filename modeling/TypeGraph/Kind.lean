import TypeGraph.Text.Quoted

/-! The kinds of types a model distinguishes, with the one spelling each of them has wherever
kinds are read or written. -/
namespace TypeGraph

/-- The four kinds whose types own a list of fields. -/
inductive ObjectKind where
  /-- Addressed on its own, optionally by a key field. -/
  | rootEntity
  /-- Owned by another entity and listed there. -/
  | childEntity
  /-- Embedded once into the entity it extends. -/
  | entityExtension
  /-- Embedded by value, without an identity. -/
  | valueObject
  deriving DecidableEq, Repr

/-- A type is a leaf (a scalar or an enum) or one of the object kinds. -/
inductive Kind where
  | scalar
  | enum
  | object (kind : ObjectKind)
  deriving DecidableEq, Repr

/-- Entities carry identity fields; extensions and value objects do not. -/
def ObjectKind.isEntity : ObjectKind → Bool
  | .rootEntity | .childEntity => true
  | .entityExtension | .valueObject => false

def ObjectKind.name : ObjectKind → String
  | .rootEntity => "ROOT_ENTITY"
  | .childEntity => "CHILD_ENTITY"
  | .entityExtension => "ENTITY_EXTENSION"
  | .valueObject => "VALUE_OBJECT"

namespace Kind

/-- The spelling of a kind in declarations, views and queries. -/
def name : Kind → String
  | .scalar => "SCALAR"
  | .enum => "ENUM"
  | .object kind => kind.name

/-- Every kind, leaves first. -/
def all : List Kind :=
  [.scalar, .enum, .object .rootEntity, .object .childEntity, .object .entityExtension,
    .object .valueObject]

def isObject : Kind → Bool
  | .object _ => true
  | .scalar | .enum => false

def isLeaf (kind : Kind) : Bool := !kind.isObject

/-- The kind of a spelling; letter case matters. -/
def ofName? (name : String) : Option Kind := all.find? (·.name == name)

theorem mem_all (kind : Kind) : kind ∈ all := by
  cases kind with
  | scalar => decide
  | enum => decide
  | object kind => cases kind <;> decide

@[simp] theorem ofName?_name (kind : Kind) : ofName? kind.name = some kind := by
  cases kind with
  | scalar => decide
  | enum => decide
  | object kind => cases kind <;> decide

end Kind

/-- A text was given where a kind was wanted. -/
structure UnknownKind where
  name : String
  deriving DecidableEq, Repr

def UnknownKind.message (unknown : UnknownKind) : String :=
  "unknown type kind: " ++ Text.Quoted.encode unknown.name

/-- The kind of a spelling, or the spelling that names none. -/
def Kind.ofName (name : String) : Except UnknownKind Kind :=
  match Kind.ofName? name with
  | some kind => .ok kind
  | none => .error ⟨name⟩

end TypeGraph
