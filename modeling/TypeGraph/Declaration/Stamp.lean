import TypeGraph.Declaration
import TypeGraph.Pointer

/-! Giving declarations the place they were read from. A location that an author wrote stays; a
missing one becomes a pointer to the declaration in its document. -/
namespace TypeGraph

namespace SourceLocation

/-- The place of a declaration in a document. -/
def ofPointer (source : String) (pointer : Pointer) : SourceLocation :=
  { source, pointer := some pointer.text }

/-- The location that is there, or else the place in the document. -/
def orPointer (location : Option SourceLocation) (source : String) (pointer : Pointer) :
    Option SourceLocation :=
  some (location.getD (.ofPointer source pointer))

end SourceLocation

open SourceLocation (orPointer)

def TypeDecl.stamp (source : String) (pointer : Pointer) : TypeDecl → TypeDecl
  | .object kind decl =>
    let field := fun (i : Nat) (field : FieldDecl) =>
      { field with location := orPointer field.location source (pointer ++ ["fields", toString i]) }
    .object kind { decl with
      fields := decl.fields.mapIdx field
      location := orPointer decl.location source pointer }
  | .enum decl =>
    let value := fun (i : Nat) (value : EnumValueDecl) =>
      { value with location := orPointer value.location source (pointer ++ ["values", toString i]) }
    .enum { decl with
      values := decl.values.mapIdx value
      location := orPointer decl.location source pointer }
  | .scalar decl => .scalar { decl with location := orPointer decl.location source pointer }

/-- Fill in every missing location. -/
def Declarations.stamp (source : String) (declarations : Declarations) : Declarations where
  types := declarations.types.mapIdx fun i decl => decl.stamp source ["types", toString i]
  profiles := declarations.profiles.mapEntries fun name profile =>
    { profile with location := orPointer profile.location source ["permissionProfiles", name] }
  bundles := declarations.bundles.mapIdx fun i bundle =>
    { bundle with location := orPointer bundle.location source ["localizations", toString i] }

end TypeGraph
