import TypeGraph.Declaration
import TypeGraph.Validation.Name

/-! The rules for enum types and their values. -/
namespace TypeGraph.Validation

/-- A value is no reserved literal, is an identifier, and by convention is in capitals. At most one
of these is found. -/
def enumValue (value : String) : List Finding :=
  if Identifier.isReservedLiteral value then [.reservedEnumValue value]
  else if !Identifier.isValid value then [.invalidEnumValue value]
  else if !Text.isUpperCase value then [.enumValueCase]
  else []

/-- Values in their order. One that equals an earlier one is a duplicate and nothing else; its
message falls back to the place of the enum. -/
def enumValues (enumLocation : Option SourceLocation) (seen : List String) :
    List EnumValueDecl → List Diagnostic
  | [] => []
  | value :: rest =>
    let found :=
      if seen.contains value.value then
        [⟨.duplicateEnumValue value.value, value.location <|> enumLocation⟩]
      else Finding.locate value.location (enumValue value.value)
    found ++ enumValues enumLocation (value.value :: seen) rest

def enum (decl : EnumDecl) : List Diagnostic :=
  Finding.locate decl.location (typeName decl.name)
  ++ Finding.locate decl.location (Finding.when decl.values.isEmpty (.noEnumValues decl.name))
  ++ enumValues decl.location [] decl.values

end TypeGraph.Validation
