import TypeGraph.Finding
import TypeGraph.Identifier

/-! The rules for names of types and fields. -/
namespace TypeGraph.Validation

/-- A type name is there, is an identifier, and by convention starts with a capital. -/
def typeName (name : String) : List Finding :=
  if name = "" then [.emptyTypeName]
  else if !Identifier.isValid name then [.invalidTypeName name]
  else if !Identifier.startsUpper name then [.typeNameCase]
  else []

/-- A field name is an identifier, and by convention starts with a small letter. -/
def fieldName (name : String) : List Finding :=
  if !Identifier.isValid name then [.invalidFieldName name]
  else if !Identifier.startsLower name then [.fieldNameCase]
  else []

end TypeGraph.Validation
