import TypeGraph.Field

/-! The types of a model: the built-in scalars and the declared types. -/
namespace TypeGraph

/-- A declared type that owns fields. -/
structure ObjectType where
  kind : ObjectKind
  decl : ObjectDecl
  deriving DecidableEq, Repr

namespace ObjectType

def name (type : ObjectType) : String := type.decl.name

def namespacePath (type : ObjectType) : List String := type.decl.namespacePath

def location (type : ObjectType) : Option SourceLocation := type.decl.location

def systemFields (type : ObjectType) : List Field :=
  if type.kind.isEntity then Field.systemFields type.name else []

def userFields (type : ObjectType) : List Field := type.decl.fields.map (.ofDecl type.name)

/-- System fields first, then the declared ones in their order. -/
def fields (type : ObjectType) : List Field := type.systemFields ++ type.userFields

def relationFields (type : ObjectType) : List Field := type.fields.filter (·.isRelation)

/-- The first field of a name, so a system field hides a declared one. -/
def field? (type : ObjectType) (name : String) : Option Field :=
  type.fields.find? (·.name == name)

def isRoot (type : ObjectType) : Bool := type.kind = .rootEntity

/-- The key field of a root entity, if it names one that exists. -/
def keyField? (type : ObjectType) : Option Field :=
  if type.isRoot then type.decl.keyFieldName.bind type.field? else none

end ObjectType

/-- The first value of an enum with this literal. -/
def EnumDecl.value? (decl : EnumDecl) (literal : String) : Option EnumValueDecl :=
  decl.values.find? (·.value == literal)

inductive TypeDef where
  | builtIn (scalar : BuiltIn)
  | declared (decl : TypeDecl)
  deriving DecidableEq, Repr

namespace TypeDef

def name : TypeDef → String
  | builtIn scalar => scalar.name
  | declared decl => decl.name

def kind : TypeDef → Kind
  | builtIn _ => .scalar
  | declared decl => decl.kind

def description : TypeDef → Option String
  | builtIn _ => none
  | declared decl => decl.description

def location : TypeDef → Option SourceLocation
  | builtIn _ => none
  | declared decl => decl.location

def isBuiltIn : TypeDef → Bool
  | builtIn _ => true
  | declared _ => false

def object? : TypeDef → Option ObjectType
  | declared (.object kind decl) => some ⟨kind, decl⟩
  | _ => none

def root? (type : TypeDef) : Option ObjectType := type.object?.filter (·.isRoot)

def enum? : TypeDef → Option EnumDecl
  | declared (.enum decl) => some decl
  | _ => none

theorem name_of_object? {type : TypeDef} {object : ObjectType} (found : type.object? = some object) :
    object.name = type.name := by
  unfold object? at found
  split at found
  · cases found; rfl
  · cases found

end TypeDef

/-- What names stand for: a type, or nothing. -/
abbrev Scope := String → Option TypeDef

/-- The object type that a name stands for, if it stands for one. -/
def Scope.object? (scope : Scope) (name : String) : Option ObjectType :=
  (scope name).bind TypeDef.object?

end TypeGraph
