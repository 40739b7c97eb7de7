import TypeGraph.Localization
import TypeGraph.Namespace
import TypeGraph.Permissions
import TypeGraph.Registry
import TypeGraph.Relation

/-! Models: declarations put together, with all that follows from them. Building a model never
fails; what is wrong with its declarations is for validation to say. -/
namespace TypeGraph

/-- The types are the built-in scalars, then the declared types in their order. -/
structure Model extends Arena where
  /-- What was wrong with declarations that the model does not hold. -/
  conflicts : List Diagnostic
  relations : List Relation
  namespaces : NamespaceTree
  profiles : Dictionary ProfileDecl
  bundles : List Bundle
  deriving DecidableEq

/-- A name was taken for one that the model declares. -/
inductive Undeclared where
  | type (name : String)
  | objectType (name : String)
  | field (owner name : String)
  deriving DecidableEq, Repr

def Undeclared.message : Undeclared → String
  | type name => s!"type \"{name}\" is not declared"
  | objectType name => s!"object type \"{name}\" is not declared"
  | field owner name => s!"field \"{owner}.{name}\" is not declared"

namespace Model

/-- Put declarations together. -/
def ofDeclarations (declarations : Declarations) : Model :=
  let registry := Registry.ofDecls declarations.types
  { toArena := registry.toArena
    conflicts := registry.conflicts
    relations := Relation.resolve registry.type? registry.types
    namespaces :=
      NamespaceTree.ofPaths ((registry.types.filterMap (·.object?)).map (·.namespacePath))
    profiles := declarations.profiles
    bundles := declarations.bundles }

/-- Every name is looked up in the index. -/
def type? (model : Model) : Scope := model.toArena.type?

def object? (model : Model) (name : String) : Option ObjectType := model.type?.object? name

def root? (model : Model) (name : String) : Option ObjectType :=
  (model.type? name).bind (·.root?)

def enum? (model : Model) (name : String) : Option EnumDecl := (model.type? name).bind (·.enum?)

/-- The type of a name that should be declared. -/
def type (model : Model) (name : String) : Except Undeclared TypeDef :=
  match model.type? name with
  | some type => .ok type
  | none => .error (.type name)

/-- The object type of a name that should be declared as one. -/
def object (model : Model) (name : String) : Except Undeclared ObjectType :=
  match model.object? name with
  | some object => .ok object
  | none => .error (.objectType name)

def objects (model : Model) : List ObjectType := model.types.filterMap (·.object?)

def enums (model : Model) : List EnumDecl := model.types.filterMap (·.enum?)

def ofKind (model : Model) (kind : Kind) : List TypeDef := model.types.filter (·.kind = kind)

/-- Relations that start at the type. -/
def relationsFrom (model : Model) (name : String) : List Relation :=
  model.relations.filter (·.fromType == name)

/-- Relations with the type at either end. -/
def relationsOf (model : Model) (name : String) : List Relation :=
  model.relations.filter (·.involves name)

def namespace? (model : Model) (path : List String) : Option Namespace :=
  model.namespaces.get? path

/-- Object types filed under exactly this namespace. -/
def objectsIn (model : Model) (ns : Namespace) : List ObjectType :=
  model.objects.filter (·.namespacePath == ns.path)

/-- Object types filed under this namespace or one below it. -/
def objectsBelow (model : Model) (ns : Namespace) : List ObjectType :=
  model.objects.filter fun object => ns.path.isPrefixOf object.namespacePath

def profile? (model : Model) (name : String) : Option ProfileDecl := model.profiles.get? name

/-- The name of the profile that a root entity is under. -/
def profileNameOf (root : ObjectType) : String :=
  root.decl.permissionProfile.getD defaultProfileName

end Model

/-- The field of a name that should be declared. -/
def ObjectType.field (object : ObjectType) (name : String) : Except Undeclared Field :=
  match object.field? name with
  | some field => .ok field
  | none => .error (.field object.name name)

namespace Relation

/-- The field at the near end, looked up in a model. -/
def nearEnd (relation : Relation) (model : Model) : Except Undeclared Field := do
  (← model.object relation.fromType).field relation.fromField

/-- The field at the far end, if the relation has one, looked up in a model. -/
def farEnd (relation : Relation) (model : Model) : Except Undeclared (Option Field) :=
  match relation.toField with
  | none => .ok none
  | some name => do return some (← (← model.object relation.toType).field name)

end Relation
end TypeGraph
