import TypeGraph.Message

/-! What validation can find: every rule that a model may break, with its severity and its wording
in one place each. -/
namespace TypeGraph

inductive Finding where
  /-- A declared type has the name of a built-in scalar. -/
  | reservedTypeName (name : String)
  /-- An earlier declaration has the name. -/
  | duplicateTypeName (name : String)
  | emptyTypeName
  | invalidTypeName (name : String)
  | typeNameCase
  | noEnumValues (enum : String)
  | duplicateEnumValue (value : String)
  | reservedEnumValue (value : String)
  | invalidEnumValue (value : String)
  | enumValueCase
  | invalidNamespaceSegment (segment type : String)
  /-- A type other than a root entity names a key field. -/
  | misplacedKeyField (type : String)
  /-- A type other than a root entity names a permission profile. -/
  | misplacedProfile (type : String)
  | noFields (type : String)
  /-- A declared field has the name of a system field of its type. -/
  | reservedFieldName (name : String)
  | duplicateFieldName (name : String)
  | invalidFieldName (name : String)
  | fieldNameCase
  | unknownType (name : String)
  | relationAndReference (field : String)
  /-- A field that is no relation names an inverse. -/
  | misplacedInverse
  /-- A relation is declared on a type that is no root entity. -/
  | relationOutsideRoot
  /-- A relation leads to a type that is no root entity. -/
  | relationTarget (type : String)
  | unknownInverse (inverse field : String)
  | inverseNoRelation (inverse field : String)
  /-- The inverse leads to another type than the one that declares the field. -/
  | inverseType (inverse field actual expected : String)
  /-- The inverse names an inverse itself. -/
  | inverseOfInverse (inverse field : String)
  /-- More than one field names this one as its inverse. -/
  | severalInverses (inverses : List String) (name field : String)
  | referenceTarget (type : String)
  | referenceWithoutKey (type : String)
  | embeddedRoot (type : String)
  /-- A child entity is embedded outside a list. -/
  | childOutsideList (type : String)
  /-- An entity extension is embedded in a list. -/
  | extensionInList (type : String)
  | unknownKeyField (name type : String)
  | listKeyField (field : String)
  | keyFieldType (field type : String)
  | unknownProfile (name : String)
  | noRoles (profile : String)
  | localizedType (language type : String)
  | localizedField (language type field : String)
  | localizedValue (language type value : String)
  deriving DecidableEq, Repr

namespace Finding

def severity : Finding → Severity
  | typeNameCase | enumValueCase | fieldNameCase | referenceWithoutKey _ | localizedType _ _
  | localizedField _ _ _ | localizedValue _ _ _ => .warning
  | _ => .error

private def quoted (name : String) : String := "\"" ++ name ++ "\""

private def inverse (inverse field : String) : String :=
  s!"Field \"{inverse}\" used as inverse field of \"{field}\""

private def localization (language : String) : String :=
  s!"Localization for language \"{language}\" refers to unknown"

def text : Finding → String
  | reservedTypeName name => s!"Type name \"{name}\" is reserved by a built-in type."
  | duplicateTypeName name => s!"Duplicate type name: \"{name}\"."
  | emptyTypeName => "Type name is empty."
  | invalidTypeName name => s!"Type name \"{name}\" is not a valid identifier."
  | typeNameCase => "Type names should start with an uppercase character."
  | noEnumValues enum => s!"Enum type \"{enum}\" does not declare any values."
  | duplicateEnumValue value => s!"Duplicate enum value: \"{value}\"."
  | reservedEnumValue value => s!"Enums cannot define value \"{value}\"."
  | invalidEnumValue value => s!"Enum value \"{value}\" is not a valid identifier."
  | enumValueCase => "Enum values should be UPPER_CASE."
  | invalidNamespaceSegment segment type =>
    s!"Namespace segment \"{segment}\" of type \"{type}\" is not a valid identifier."
  | misplacedKeyField type =>
    s!"Type \"{type}\" declares a key field, "
      ++ "but key fields can only be declared on root entity types."
  | misplacedProfile type =>
    s!"Type \"{type}\" declares a permission profile, "
      ++ "but permissions can only be declared on root entity types."
  | noFields type => s!"Object type \"{type}\" does not declare any fields."
  | reservedFieldName name => s!"Field name \"{name}\" is reserved by a system field."
  | duplicateFieldName name => s!"Duplicate field name: \"{name}\"."
  | invalidFieldName name => s!"Field name \"{name}\" is not a valid identifier."
  | fieldNameCase => "Field names should start with a lowercase character."
  | unknownType name => s!"Type \"{name}\" not found."
  | relationAndReference field =>
    s!"Field \"{field}\" cannot be both a relation and a reference."
  | misplacedInverse => "inverseOfFieldName can only be used on relation fields."
  | relationOutsideRoot =>
    "Relations can only be defined on root entity types. Consider using a reference instead."
  | relationTarget type =>
    s!"Type \"{type}\" cannot be used as a relation target because it is not a root entity type."
  | unknownInverse other field => inverse other field ++ " does not exist."
  | inverseNoRelation other field => inverse other field ++ " is not a relation field."
  | inverseType other field actual expected =>
    inverse other field ++ s!" has type \"{actual}\" but should be of type \"{expected}\"."
  | inverseOfInverse other field =>
    inverse other field ++ " is itself declared as an inverse field."
  | severalInverses inverses name field =>
    let names := String.intercalate ", " (inverses.map quoted)
    s!"Multiple fields ({names}) declare inverseOfFieldName \"{name}\" for field \"{field}\"."
  | referenceTarget type =>
    s!"Type \"{type}\" cannot be used as a reference target because it is not a root entity type."
  | referenceWithoutKey type =>
    s!"Type \"{type}\" does not declare a key field; references to it use the \"id\" field."
  | embeddedRoot type =>
    s!"Type \"{type}\" is a root entity type and cannot be embedded. "
      ++ "Declare the field as a relation or a reference."
  | childOutsideList type =>
    s!"Type \"{type}\" is a child entity type and can only be used in lists."
  | extensionInList type =>
    s!"Type \"{type}\" is an entity extension type and cannot be used in lists."
  | unknownKeyField name type =>
    s!"Field \"{name}\" does not exist on type \"{type}\" and cannot be used as key field."
  | listKeyField field => s!"List field \"{field}\" cannot be used as key field."
  | keyFieldType field type =>
    s!"Field \"{field}\" has type \"{type}\" and cannot be used as key field; "
      ++ "only scalar and enum fields can be keys."
  | unknownProfile name => s!"Permission profile \"{name}\" not found."
  | noRoles profile => s!"Permission profile \"{profile}\" declares a permission without roles."
  | localizedType language type => localization language ++ s!" type \"{type}\"."
  | localizedField language type field => localization language ++ s!" field \"{type}.{field}\"."
  | localizedValue language type value =>
    localization language ++ s!" enum value \"{type}.{value}\"."

/-- The finding, if the condition holds. -/
def when (condition : Bool) (finding : Finding) : List Finding :=
  if condition then [finding] else []

end Finding

/-- A finding and the place of the declaration that it is about. -/
structure Diagnostic where
  finding : Finding
  location : Option SourceLocation
  deriving DecidableEq, Repr

def Diagnostic.message (diagnostic : Diagnostic) : Message :=
  ⟨diagnostic.finding.severity, diagnostic.finding.text, diagnostic.location⟩

/-- Findings that are all about the declaration at one place. -/
def Finding.locate (location : Option SourceLocation) (findings : List Finding) :
    List Diagnostic :=
  findings.map (⟨·, location⟩)

end TypeGraph
