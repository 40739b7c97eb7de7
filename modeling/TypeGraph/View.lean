import TypeGraph.Model

/-! The outside view of a model: plain values that name everything they speak of, for tools that
know nothing of the model itself. -/
namespace TypeGraph

structure FieldView where
  name : String
  typeName : String
  /-- The kind of the field's type, if there is such a type. -/
  typeKind : Option Kind
  isList : Bool
  isReference : Bool
  isRelation : Bool
  isSystemField : Bool
  inverseOf : Option String
  deriving DecidableEq, Repr

structure ScalarView where
  name : String
  description : Option String
  isBuiltIn : Bool
  deriving DecidableEq, Repr

structure EnumValueView where
  value : String
  description : Option String
  deprecationReason : Option String
  deriving DecidableEq, Repr

structure EnumView where
  name : String
  description : Option String
  values : List EnumValueView
  deriving DecidableEq, Repr

structure ObjectView where
  name : String
  description : Option String
  namespacePath : List String
  fields : List FieldView
  deriving DecidableEq, Repr

/-- A type with its kind. Only root entities say which field is their key. -/
inductive TypeView where
  | scalar (view : ScalarView)
  | enum (view : EnumView)
  | rootEntity (view : ObjectView) (keyField : Option String)
  | childEntity (view : ObjectView)
  | entityExtension (view : ObjectView)
  | valueObject (view : ObjectView)
  deriving DecidableEq, Repr

structure RelationView where
  fromType : String
  fromField : String
  toType : String
  toField : Option String
  deriving DecidableEq, Repr

structure NamespaceView where
  /-- The last segment; the root has none. -/
  name : Option String
  path : List String
  isRoot : Bool
  deriving DecidableEq, Repr

/-- A whole model. -/
structure Snapshot where
  types : List TypeView
  relations : List RelationView
  namespaces : List NamespaceView
  deriving DecidableEq, Repr

namespace TypeView

def name : TypeView → String
  | scalar view => view.name
  | enum view => view.name
  | rootEntity view _ | childEntity view | entityExtension view | valueObject view => view.name

def kind : TypeView → Kind
  | scalar _ => .scalar
  | enum _ => .enum
  | rootEntity _ _ => .object .rootEntity
  | childEntity _ => .object .childEntity
  | entityExtension _ => .object .entityExtension
  | valueObject _ => .object .valueObject

def object? : TypeView → Option ObjectView
  | scalar _ | enum _ => none
  | rootEntity view _ | childEntity view | entityExtension view | valueObject view => some view

end TypeView

def RelationView.ofRelation (relation : Relation) : RelationView :=
  ⟨relation.fromType, relation.fromField, relation.toType, relation.toField⟩

def NamespaceView.ofNamespace (ns : Namespace) : NamespaceView := ⟨ns.name, ns.path, ns.isRoot⟩

def EnumView.ofDecl (decl : EnumDecl) : EnumView where
  name := decl.name
  description := decl.description
  values := decl.values.map fun value => ⟨value.value, value.description, value.deprecationReason⟩

namespace Model

def fieldView (model : Model) (field : Field) : FieldView where
  name := field.name
  typeName := field.typeName
  typeKind := (model.type? field.typeName).map (·.kind)
  isList := field.isList
  isReference := field.isReference
  isRelation := field.isRelation
  isSystemField := field.isSystem
  inverseOf := field.inverseOf

def objectView (model : Model) (object : ObjectType) : ObjectView where
  name := object.name
  description := object.decl.description
  namespacePath := object.namespacePath
  fields := object.fields.map model.fieldView

def typeView (model : Model) : TypeDef → TypeView
  | .builtIn scalar => .scalar ⟨scalar.name, none, true⟩
  | .declared (.scalar decl) => .scalar ⟨decl.name, decl.description, false⟩
  | .declared (.enum decl) => .enum (.ofDecl decl)
  | .declared (.object kind decl) =>
    let object : ObjectType := ⟨kind, decl⟩
    let view := model.objectView object
    match kind with
    | .rootEntity => .rootEntity view (object.keyField?.map (·.name))
    | .childEntity => .childEntity view
    | .entityExtension => .entityExtension view
    | .valueObject => .valueObject view

def typeViews (model : Model) : List TypeView := model.types.map model.typeView

def typeView? (model : Model) (name : String) : Option TypeView :=
  (model.type? name).map model.typeView

def typeViewsOf (model : Model) (kind : Kind) : List TypeView :=
  (model.ofKind kind).map model.typeView

def enumView? (model : Model) (name : String) : Option EnumView :=
  (model.enum? name).map .ofDecl

def relationViews (model : Model) : List RelationView := model.relations.map .ofRelation

/-- The relations at either end of which an object type stands. -/
def relationViews? (model : Model) (name : String) : Option (List RelationView) :=
  (model.object? name).map fun _ => (model.relationsOf name).map .ofRelation

def namespaceViews (model : Model) : List NamespaceView :=
  model.namespaces.namespaces.map .ofNamespace

def namespaceView? (model : Model) (path : List String) : Option NamespaceView :=
  (model.namespace? path).map .ofNamespace

def snapshot (model : Model) : Snapshot where
  types := model.typeViews
  relations := model.relationViews
  namespaces := model.namespaceViews

end Model
end TypeGraph
