import TypeGraph.Model
import TypeGraph.Validation.Enum
import TypeGraph.Validation.ObjectType

/-! Validating a model: every rule is applied to every declaration, and nothing that is found keeps
the rest from being looked at. -/
namespace TypeGraph

namespace Validation

def type (scope : Scope) (profiles : Dictionary ProfileDecl) : TypeDef → List Diagnostic
  | .builtIn _ => []
  | .declared (.scalar decl) => Finding.locate decl.location (typeName decl.name)
  | .declared (.enum decl) => enum decl
  | .declared (.object kind decl) => objectType scope profiles ⟨kind, decl⟩

/-- Every permission has roles; a profile is blamed once. -/
def profile (name : String) (profile : ProfileDecl) : List Diagnostic :=
  Finding.locate profile.location
    (Finding.when (profile.permissions.any (·.roles.isEmpty)) (.noRoles name))

/-- Labels belong to a type of the model, and under it to fields or values that it has. -/
def typeLabels (scope : Scope) (language name : String) (labels : TypeLabels) :
    List Finding :=
  match scope name with
  | none => [.localizedType language name]
  | some type =>
    let hasField := fun field => (type.object?.bind (·.field? field)).isSome
    let hasValue := fun value => (type.enum?.bind (·.value? value)).isSome
    (labels.fields.keys.filter (!hasField ·)).map (.localizedField language name)
    ++ (labels.values.keys.filter (!hasValue ·)).map (.localizedValue language name)

def bundle (scope : Scope) (bundle : Bundle) : List Diagnostic :=
  Finding.locate bundle.location <|
    bundle.types.entries.flatMap fun entry => typeLabels scope bundle.language entry.1 entry.2

end Validation

namespace Model

/-- Everything there is to say about a model: conflicts between declarations, then its types, its
permission profiles and its labels, each in their order. -/
def diagnostics (model : Model) : List Diagnostic :=
  model.conflicts
  ++ model.types.flatMap (Validation.type model.type? model.profiles)
  ++ model.profiles.entries.flatMap (fun entry => Validation.profile entry.1 entry.2)
  ++ model.bundles.flatMap (Validation.bundle model.type?)

def validate (model : Model) : Report := ⟨model.diagnostics.map (·.message)⟩

end Model

/-- The model of declarations without errors, or the report that tells of them. -/
def Declarations.build (declarations : Declarations) : Except Report Model :=
  let model := Model.ofDeclarations declarations
  let report := model.validate
  if report.hasErrors then .error report else .ok model

/-- How a rejected model is announced. -/
def Report.rejection (report : Report) : String :=
  s!"model is invalid ({report.errorCount} error(s)):\n" ++ report.display

end TypeGraph
