import TypeGraph.Proofs.Construction

/-! What can be wrong with a declaration, rule by rule. A fault is a broken rule together with the
finding that tells of it, and it is always the fault of one declaration: the one whose place a
diagnostic has to show. -/
namespace TypeGraph

/-- The name of a type is missing, is no identifier, or does not start with a capital. -/
inductive TypeNameFault (name : String) : Finding → Prop where
  | empty (empty : name = "") : TypeNameFault name .emptyTypeName
  | invalid (named : name ≠ "") (invalid : Identifier.isValid name = false) :
      TypeNameFault name (.invalidTypeName name)
  | lowerCase (valid : Identifier.isValid name = true) (lower : Identifier.startsUpper name = false) :
      TypeNameFault name .typeNameCase

/-- The name of a field is no identifier, or does not start with a small letter. -/
inductive FieldNameFault (name : String) : Finding → Prop where
  | invalid (invalid : Identifier.isValid name = false) :
      FieldNameFault name (.invalidFieldName name)
  | upperCase (valid : Identifier.isValid name = true) (upper : Identifier.startsLower name = false) :
      FieldNameFault name .fieldNameCase

/-- What is wrong with the key field that a root entity names. -/
inductive KeyFault (types : List TypeDef) (root : ObjectType) (name : String) : Finding → Prop where
  | unknown (missing : root.field? name = none) :
      KeyFault types root name (.unknownKeyField name root.name)
  | list {field : Field} (found : root.field? name = some field) (list : field.isList = true) :
      KeyFault types root name (.listKeyField field.qualifiedName)
  | structured {field : Field} {type : TypeDef} (found : root.field? name = some field)
      (leads : findType? types field.typeName = some type) (structured : type.kind.isObject = true) :
      KeyFault types root name (.keyFieldType field.qualifiedName type.name)

section Objects
variable (types : List TypeDef) (profiles : Dictionary ProfileDecl) (object : ObjectType)

/-- What an object type itself declares: its namespace, its key field and its profile. -/
inductive ObjectFault : Finding → Prop where
  | segment {segment : String} (member : segment ∈ object.namespacePath)
      (invalid : Identifier.isValid segment = false) :
      ObjectFault (.invalidNamespaceSegment segment object.name)
  | misplacedKey (inner : object.kind ≠ .rootEntity) (keyed : object.decl.keyFieldName ≠ none) :
      ObjectFault (.misplacedKeyField object.name)
  | misplacedProfile (inner : object.kind ≠ .rootEntity)
      (ruled : object.decl.permissionProfile ≠ none) : ObjectFault (.misplacedProfile object.name)
  | noFields (empty : object.decl.fields = []) : ObjectFault (.noFields object.name)
  | key {name : String} {finding : Finding} (root : object.kind = .rootEntity)
      (keyed : object.decl.keyFieldName = some name) (fault : KeyFault types object name finding) :
      ObjectFault finding
  | unknownProfile {name : String} (root : object.kind = .rootEntity)
      (ruled : object.decl.permissionProfile = some name) (missing : profiles.get? name = none) :
      ObjectFault (.unknownProfile name)

end Objects

/-- A type as a whole breaks a rule: by its name, as an enum without values, or as an object type. -/
inductive TypeFault (types : List TypeDef) (profiles : Dictionary ProfileDecl) :
    TypeDecl → Finding → Prop where
  | name {decl : TypeDecl} {finding : Finding} (fault : TypeNameFault decl.name finding) :
      TypeFault types profiles decl finding
  | noValues {decl : EnumDecl} (empty : decl.values = []) :
      TypeFault types profiles (.enum decl) (.noEnumValues decl.name)
  | object {kind : ObjectKind} {decl : ObjectDecl} {finding : Finding}
      (fault : ObjectFault types profiles ⟨kind, decl⟩ finding) :
      TypeFault types profiles (.object kind decl) finding

/-- A declared field has the name of another field of its type. Where that is a system field, only
this is said. -/
inductive ClashFault (object : ObjectType) (decl : FieldDecl) : Finding → Prop where
  | reserved (taken : decl.name ∈ object.systemFields.map (·.name)) :
      ClashFault object decl (.reservedFieldName decl.name)
  | duplicate (free : decl.name ∉ object.systemFields.map (·.name))
      (several : 1 < (object.decl.fields.filter (·.name == decl.name)).length) :
      ClashFault object decl (.duplicateFieldName decl.name)

section Targets
variable (types : List TypeDef) (field : Field) (target : TypeDef)

/-- What is wrong with a relation field that names its inverse in the root entity it leads to. -/
inductive InverseFault (root : ObjectType) (inverse : String) : Finding → Prop where
  | unknown (missing : root.field? inverse = none) :
      InverseFault root inverse (.unknownInverse (root.name ++ "." ++ inverse) field.qualifiedName)
  | noRelation {other : Field} (found : root.field? inverse = some other)
      (plain : other.isRelation = false) :
      InverseFault root inverse (.inverseNoRelation (root.name ++ "." ++ inverse) field.qualifiedName)
  | elsewhere {other : Field} (found : root.field? inverse = some other)
      (relation : other.isRelation = true) (apart : other.typeName ≠ field.owner) :
      InverseFault root inverse (.inverseType (root.name ++ "." ++ inverse) field.qualifiedName
        other.typeName field.owner)
  | ofInverse {other : Field} (found : root.field? inverse = some other)
      (relation : other.isRelation = true) (back : other.typeName = field.owner)
      (names : other.inverseOf ≠ none) :
      InverseFault root inverse (.inverseOfInverse (root.name ++ "." ++ inverse) field.qualifiedName)

/-- What is wrong with a field in view of the type that it leads to. -/
inductive TargetFault : Finding → Prop where
  | relationOutsideRoot (relation : field.isRelation = true)
      (outside : (findType? types field.owner).bind (·.root?) = none) :
      TargetFault .relationOutsideRoot
  | relationTarget (relation : field.isRelation = true) (aim : target.root? = none) :
      TargetFault (.relationTarget target.name)
  | inverse {root : ObjectType} {inverse : String} {finding : Finding}
      (relation : field.isRelation = true) (aim : target.root? = some root)
      (names : field.inverseOf = some inverse) (fault : InverseFault field root inverse finding) :
      TargetFault finding
  | severalInverses {root : ObjectType} (relation : field.isRelation = true)
      (aim : target.root? = some root) (forward : field.inverseOf = none)
      (several : 1 < (field.inversesOn root).length) :
      TargetFault (.severalInverses ((field.inversesOn root).map (·.qualifiedName)) field.name
        field.qualifiedName)
  | referenceTarget (plain : field.isRelation = false) (reference : field.isReference = true)
      (aim : target.root? = none) : TargetFault (.referenceTarget target.name)
  | referenceWithoutKey {root : ObjectType} (plain : field.isRelation = false)
      (reference : field.isReference = true) (aim : target.root? = some root)
      (keyless : root.decl.keyFieldName = none) : TargetFault (.referenceWithoutKey root.name)
  | embeddedRoot (plain : field.isRelation = false) (embeds : field.isReference = false)
      (kind : target.kind = .object .rootEntity) : TargetFault (.embeddedRoot target.name)
  | childOutsideList (plain : field.isRelation = false) (embeds : field.isReference = false)
      (kind : target.kind = .object .childEntity) (single : field.isList = false) :
      TargetFault (.childOutsideList target.name)
  | extensionInList (plain : field.isRelation = false) (embeds : field.isReference = false)
      (kind : target.kind = .object .entityExtension) (list : field.isList = true) :
      TargetFault (.extensionInList target.name)

end Targets

/-- A declared field of an object type breaks a rule. -/
inductive FieldFault (types : List TypeDef) (object : ObjectType) (decl : FieldDecl) :
    Finding → Prop where
  | clash {finding : Finding} (fault : ClashFault object decl finding) :
      FieldFault types object decl finding
  | name {finding : Finding} (fault : FieldNameFault decl.name finding) :
      FieldFault types object decl finding
  | unknownType (missing : findType? types decl.typeName = none) :
      FieldFault types object decl (.unknownType decl.typeName)
  | relationAndReference (relation : decl.isRelation = true) (reference : decl.isReference = true) :
      FieldFault types object decl (.relationAndReference (object.name ++ "." ++ decl.name))
  | misplacedInverse (names : decl.inverseOf ≠ none) (plain : decl.isRelation = false) :
      FieldFault types object decl .misplacedInverse
  | target {target : TypeDef} {finding : Finding}
      (found : findType? types decl.typeName = some target)
      (fault : TargetFault types (.ofDecl object.name decl) target finding) :
      FieldFault types object decl finding

/-- A literal of an enum is reserved, no identifier, or not in capitals. -/
inductive LiteralFault (literal : String) : Finding → Prop where
  | reserved (reserved : literal ∈ Identifier.reservedLiterals) :
      LiteralFault literal (.reservedEnumValue literal)
  | invalid (unreserved : literal ∉ Identifier.reservedLiterals)
      (invalid : Identifier.isValid literal = false) : LiteralFault literal (.invalidEnumValue literal)
  | lowerCase (unreserved : literal ∉ Identifier.reservedLiterals)
      (valid : Identifier.isValid literal = true) (lower : Text.isUpperCase literal = false) :
      LiteralFault literal .enumValueCase

/-- What is wrong with a value of an enum behind the literals of earlier ones, and the place that it
is shown at. A literal that repeats an earlier one is at fault for that alone; only then is the place
of the enum shown for a value that has none. -/
inductive ValueFault (place : Option SourceLocation) (earlier : List String) (decl : EnumValueDecl) :
    Finding → Option SourceLocation → Prop where
  | repeated (repeated : decl.value ∈ earlier) :
      ValueFault place earlier decl (.duplicateEnumValue decl.value) (decl.location <|> place)
  | literal {finding : Finding} (new : decl.value ∉ earlier)
      (fault : LiteralFault decl.value finding) :
      ValueFault place earlier decl finding decl.location

/-- A bundle has labels for something that the model does not have. -/
inductive LabelFault (types : List TypeDef) (bundle : Bundle) : Finding → Prop where
  | type {name : String} {labels : TypeLabels} (labelled : bundle.types.get? name = some labels)
      (missing : findType? types name = none) :
      LabelFault types bundle (.localizedType bundle.language name)
  | field {name field : String} {labels : TypeLabels} {type : TypeDef}
      (labelled : bundle.types.get? name = some labels) (found : findType? types name = some type)
      (member : field ∈ labels.fields.keys) (missing : type.object?.bind (·.field? field) = none) :
      LabelFault types bundle (.localizedField bundle.language name field)
  | value {name value : String} {labels : TypeLabels} {type : TypeDef}
      (labelled : bundle.types.get? name = some labels) (found : findType? types name = some type)
      (member : value ∈ labels.values.keys) (missing : type.enum?.bind (·.value? value) = none) :
      LabelFault types bundle (.localizedValue bundle.language name value)

namespace Declarations

open TypeDecl (firsts repeats refusal)

variable (declarations : Declarations)

/-- A finding is about a declaration, and this is the location of that declaration. Nothing is about
built-in scalars or system fields, since nobody declares them. -/
inductive Blames : Finding → Option SourceLocation → Prop where
  | dropped {decl : TypeDecl} (dropped : decl ∈ repeats declarations.types) :
      Blames (refusal decl).finding decl.location
  | type {decl : TypeDecl} {finding : Finding} (kept : decl ∈ firsts declarations.types)
      (fault : TypeFault (Model.ofDeclarations declarations).types declarations.profiles decl finding) :
      Blames finding decl.location
  | field {kind : ObjectKind} {owner : ObjectDecl} {decl : FieldDecl} {finding : Finding}
      (kept : .object kind owner ∈ firsts declarations.types) (declared : decl ∈ owner.fields)
      (fault : FieldFault (Model.ofDeclarations declarations).types ⟨kind, owner⟩ decl finding) :
      Blames finding decl.location
  | value {enum : EnumDecl} {earlier later : List EnumValueDecl} {decl : EnumValueDecl}
      {finding : Finding} {location : Option SourceLocation}
      (kept : .enum enum ∈ firsts declarations.types)
      (declared : enum.values = earlier ++ decl :: later)
      (fault : ValueFault enum.location (earlier.map (·.value)) decl finding location) :
      Blames finding location
  | profile {name : String} {profile : ProfileDecl} {permission : Permission}
      (bound : declarations.profiles.get? name = some profile)
      (granted : permission ∈ profile.permissions) (empty : permission.roles = []) :
      Blames (.noRoles name) profile.location
  | bundle {bundle : Bundle} {finding : Finding} (listed : bundle ∈ declarations.bundles)
      (fault : LabelFault (Model.ofDeclarations declarations).types bundle finding) :
      Blames finding bundle.location

end Declarations
end TypeGraph
