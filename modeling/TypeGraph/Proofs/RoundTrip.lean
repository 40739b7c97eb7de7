import TypeGraph.Declaration.Decode
import TypeGraph.Proofs.Abbreviation

/-! Written declarations are read as they were, in full or in any form that stands for them. Writing
and reading list the fields of each record apart from each other; here both are held against one list
of parts. -/
namespace TypeGraph

open Abbreviation (exact)

namespace Decoder

theorem undoes_string : string.Undoes exact .str := undoes_exact reads_string

theorem undoes_bool : bool.Undoes exact .bool := undoes_exact reads_bool

theorem undoes_word : word.Undoes exact (.num ·.toNat) := undoes_exact reads_word

theorem undoes_strings : (list string).Undoes exact Json.strings :=
  undoes_exact fun _ => reads_list
    (List.forall₂_map_left_iff.mpr (List.forall₂_same.mpr fun value _ => reads_string value))

end Decoder

open Decoder (undoes_string undoes_bool undoes_word undoes_strings undoes_list undoes_dictionary)

/-- A record is read back when each of its fields is. -/
theorem Record.undoes {α : Type} {record : Record α} {write : α → Json}
    {defaults : List (String × Json)} {member : String → Abbreviation}
    (parts : α → List (String × Option Json)) (title : String) (distinct : record.names.Nodup)
    (names : ∀ value, (parts value).map (·.1) = record.names)
    (written : ∀ value, write value = .obj (Json.present (parts value)))
    (fields : ∀ value shorts, Abbreviated defaults member (parts value) shorts →
      record.Yields shorts value) :
    (record.decode title).Undoes (.record defaults member) write := by
  intro value short allowed
  rw [written] at allowed
  obtain ⟨shorts, rfl, abbreviated⟩ := Abbreviated.of_allows (names value ▸ distinct) allowed
  exact (fields value shorts abbreviated).reads distinct title

namespace SourceLocation

/-- What is written of a location, in the order in which its fields are declared. -/
def parts (location : SourceLocation) : List (String × Option Json) :=
  [("source", some (.str location.source)),
    ("pointer", location.pointer.map .str),
    ("line", location.line.map (.num ·.toNat)),
    ("column", location.column.map (.num ·.toNat))]

theorem toJson_eq (location : SourceLocation) :
    location.toJson = .obj (Json.present location.parts) := by
  simp [toJson, parts]

@[simp] theorem toJson_ne_null (location : SourceLocation) : location.toJson ≠ .null := by
  simp [toJson]

theorem decode_undoes : decode.Undoes .location toJson := by
  refine Record.undoes parts _ (by decide) (fun _ => rfl) toJson_eq fun location shorts fields => ?_
  have source := fields.required "source" location.source undoes_string (by simp [parts])
    (by decide)
  have pointer := fields.optional "pointer" location.pointer undoes_string (by simp [parts])
    (by decide) (by simp)
  have line := fields.optional "line" location.line undoes_word (by simp [parts])
    (by decide) (by simp)
  have column := fields.optional "column" location.column undoes_word (by simp [parts])
    (by decide) (by simp)
  exact (((source.map SourceLocation.mk).seq pointer).seq line).seq column

theorem depth_toJson_le (location : SourceLocation) : location.toJson.depth ≤ 1 := by
  rw [toJson_eq, Json.depth, Nat.succ_le_succ_iff, Json.depthOfMembers_present_le_iff]
  simp [parts, Json.depth]

end SourceLocation

namespace FieldDecl

def parts (field : FieldDecl) : List (String × Option Json) :=
  [("name", some (.str field.name)),
    ("typeName", some (.str field.typeName)),
    ("isList", some (.bool field.isList)),
    ("isReference", some (.bool field.isReference)),
    ("isRelation", some (.bool field.isRelation)),
    ("inverseOfFieldName", field.inverseOf.map .str),
    ("description", field.description.map .str),
    ("location", field.location.map SourceLocation.toJson)]

theorem toJson_eq (field : FieldDecl) : field.toJson = .obj (Json.present field.parts) := by
  simp [toJson, parts]

theorem decode_undoes : decode.Undoes .field toJson := by
  refine Record.undoes parts _ (by decide) (fun _ => rfl) toJson_eq fun field shorts fields => ?_
  have name := fields.required "name" field.name undoes_string (by simp [parts]) (by decide)
  have typeName := fields.required "typeName" field.typeName undoes_string (by simp [parts])
    (by decide)
  have isList := fields.defaulted "isList" field.isList false undoes_bool (by simp [parts])
    (by simp)
  have isReference := fields.defaulted "isReference" field.isReference false undoes_bool
    (by simp [parts]) (by simp)
  have isRelation := fields.defaulted "isRelation" field.isRelation false undoes_bool
    (by simp [parts]) (by simp)
  have inverseOf := fields.optional "inverseOfFieldName" field.inverseOf undoes_string
    (by simp [parts]) (by decide) (by simp)
  have description := fields.optional "description" field.description undoes_string
    (by simp [parts]) (by decide) (by simp)
  have location := fields.optional "location" field.location SourceLocation.decode_undoes
    (by simp [parts]) (by decide) (by simp)
  exact (((((((name.map FieldDecl.mk).seq typeName).seq isList).seq isReference).seq isRelation).seq
    inverseOf).seq description).seq location

theorem depth_toJson_le (field : FieldDecl) : field.toJson.depth ≤ 2 := by
  rw [toJson_eq, Json.depth, Nat.succ_le_succ_iff, Json.depthOfMembers_present_le_iff]
  simp [parts, Json.depth, SourceLocation.depth_toJson_le]

end FieldDecl

namespace EnumValueDecl

def parts (value : EnumValueDecl) : List (String × Option Json) :=
  [("value", some (.str value.value)),
    ("description", value.description.map .str),
    ("deprecationReason", value.deprecationReason.map .str),
    ("location", value.location.map SourceLocation.toJson)]

theorem toJson_eq (value : EnumValueDecl) : value.toJson = .obj (Json.present value.parts) := by
  simp [toJson, parts]

theorem depth_toJson_le (value : EnumValueDecl) : value.toJson.depth ≤ 2 := by
  rw [toJson_eq, Json.depth, Nat.succ_le_succ_iff, Json.depthOfMembers_present_le_iff]
  simp [parts, Json.depth, SourceLocation.depth_toJson_le]

theorem ofWhole_undoes {value : EnumValueDecl} {short : Json}
    (allowed : Abbreviation.enumValue.Allows value.toJson short) :
    ofWhole (.ofJson short) = .ok value := by
  obtain detailed | ⟨literal, bare, rfl⟩ := allowed
  · rw [toJson_eq] at detailed
    obtain ⟨shorts, rfl, fields⟩ := Abbreviated.of_allows (by simp [parts]) detailed
    have literal := fields.required "value" value.value undoes_string (by simp [parts]) (by decide)
    have description := fields.optional "description" value.description undoes_string
      (by simp [parts]) (by decide) (by simp)
    have reason := fields.optional "deprecationReason" value.deprecationReason undoes_string
      (by simp [parts]) (by decide) (by simp)
    have location := fields.optional "location" value.location SourceLocation.decode_undoes
      (by simp [parts]) (by decide) (by simp)
    have yields : record.Yields shorts value :=
      (((literal.map EnumValueDecl.mk).seq description).seq reason).seq location
    simp only [Tree.ofJson, ofWhole, yields.ofEntries_eq (by decide)]
    rfl
  · -- a bare literal is allowed only where the written object has no other member
    obtain ⟨literal, description, reason, location⟩ := value
    cases description <;> cases reason <;> cases location <;> cases bare
    rfl

/-- Read on its own or whole before it is decoded, an enum value comes back from either form. -/
theorem decode_undoes : decode.Undoes .enumValue toJson := by
  intro value short allowed dialect
  have whole := ofWhole_undoes allowed
  have shallow := Nat.le_trans (Abbreviation.enumValue.depth_le allowed) value.depth_toJson_le
  have read (room : Nat) (fits : 2 ≤ room) :
      (Tree.ofJson short).readWhole room = pure (.ofJson short) :=
    Tree.readWhole_ofJson short (Nat.le_trans shallow fits)
  cases dialect <;> simp [decode, whole, read, Dialect.depthLimit]
  all_goals rfl

end EnumValueDecl

open Abbreviation (typeDefaults typeMember)

variable {shorts : List (String × Json)}

namespace ObjectDecl

def parts (object : ObjectDecl) : List (String × Option Json) :=
  [("name", some (.str object.name)),
    ("description", object.description.map .str),
    ("namespacePath", some (Json.strings object.namespacePath)),
    ("fields", some (Json.list FieldDecl.toJson object.fields)),
    ("keyFieldName", object.keyFieldName.map .str),
    ("permissionProfile", object.permissionProfile.map .str),
    ("location", object.location.map SourceLocation.toJson)]

theorem members_eq (object : ObjectDecl) : object.members = Json.present object.parts := by
  simp [members, parts]

theorem yields {object : ObjectDecl}
    (fields : Abbreviated typeDefaults typeMember object.parts shorts) :
    record.Yields shorts object := by
  have name := fields.required "name" object.name undoes_string (by simp [parts]) (by decide)
  have description := fields.optional "description" object.description undoes_string
    (by simp [parts]) (by decide) (by simp)
  have namespacePath := fields.defaulted "namespacePath" object.namespacePath [] undoes_strings
    (by simp [parts]) (by simp [typeDefaults, Json.strings, Json.list])
  have ownFields := fields.defaulted "fields" object.fields []
    (undoes_list FieldDecl.decode_undoes) (by simp [parts]) (by simp [typeDefaults, Json.list])
  have keyFieldName := fields.optional "keyFieldName" object.keyFieldName undoes_string
    (by simp [parts]) (by decide) (by simp)
  have permissionProfile := fields.optional "permissionProfile" object.permissionProfile
    undoes_string (by simp [parts]) (by decide) (by simp)
  have location := fields.optional "location" object.location SourceLocation.decode_undoes
    (by simp [parts]) (by decide) (by simp)
  exact ((((((name.map ObjectDecl.mk).seq description).seq namespacePath).seq ownFields).seq
    keyFieldName).seq permissionProfile).seq location

end ObjectDecl

namespace EnumDecl

def parts (decl : EnumDecl) : List (String × Option Json) :=
  [("name", some (.str decl.name)),
    ("description", decl.description.map .str),
    ("values", some (Json.list EnumValueDecl.toJson decl.values)),
    ("location", decl.location.map SourceLocation.toJson)]

theorem members_eq (decl : EnumDecl) : decl.members = Json.present decl.parts := by
  simp [members, parts]

theorem yields {decl : EnumDecl} (fields : Abbreviated typeDefaults typeMember decl.parts shorts) :
    record.Yields shorts decl := by
  have name := fields.required "name" decl.name undoes_string (by simp [parts]) (by decide)
  have description := fields.optional "description" decl.description undoes_string
    (by simp [parts]) (by decide) (by simp)
  have values := fields.defaulted "values" decl.values [] (undoes_list EnumValueDecl.decode_undoes)
    (by simp [parts]) (by simp [typeDefaults, Json.list])
  have location := fields.optional "location" decl.location SourceLocation.decode_undoes
    (by simp [parts]) (by decide) (by simp)
  exact (((name.map EnumDecl.mk).seq description).seq values).seq location

end EnumDecl

namespace ScalarDecl

def parts (decl : ScalarDecl) : List (String × Option Json) :=
  [("name", some (.str decl.name)),
    ("description", decl.description.map .str),
    ("location", decl.location.map SourceLocation.toJson)]

theorem members_eq (decl : ScalarDecl) : decl.members = Json.present decl.parts := by
  simp [members, parts]

theorem yields {decl : ScalarDecl}
    (fields : Abbreviated typeDefaults typeMember decl.parts shorts) :
    record.Yields shorts decl := by
  have name := fields.required "name" decl.name undoes_string (by simp [parts]) (by decide)
  have description := fields.optional "description" decl.description undoes_string
    (by simp [parts]) (by decide) (by simp)
  have location := fields.optional "location" decl.location SourceLocation.decode_undoes
    (by simp [parts]) (by decide) (by simp)
  exact ((name.map ScalarDecl.mk).seq description).seq location

end ScalarDecl

namespace TypeDecl

/-- The parts that a kind of types has of its own. -/
def payload : TypeDecl → List (String × Option Json)
  | object _ decl => decl.parts
  | enum decl => decl.parts
  | scalar decl => decl.parts

def parts (decl : TypeDecl) : List (String × Option Json) :=
  ("kind", some (.str decl.kind.name)) :: decl.payload

theorem toJson_eq (decl : TypeDecl) : decl.toJson = .obj (Json.present decl.parts) := by
  cases decl with
  | object kind decl => simp [toJson, members, parts, payload, decl.members_eq]
  | enum decl => simp [toJson, members, parts, payload, decl.members_eq]
  | scalar decl => simp [toJson, members, parts, payload, decl.members_eq]

theorem nodup_names (decl : TypeDecl) : (decl.parts.map (·.1)).Nodup := by
  cases decl with
  | object kind decl => simp [parts, payload, ObjectDecl.parts]
  | enum decl => simp [parts, payload, EnumDecl.parts]
  | scalar decl => simp [parts, payload, ScalarDecl.parts]

theorem depth_payload_le (decl : TypeDecl) :
    Json.depthOfMembers (Json.present decl.payload) ≤ 3 := by
  have fields (fields : List FieldDecl) : (Json.list FieldDecl.toJson fields).depth ≤ 3 :=
    Json.depth_list_le fun field _ => field.depth_toJson_le
  have values (values : List EnumValueDecl) : (Json.list EnumValueDecl.toJson values).depth ≤ 3 :=
    Json.depth_list_le fun value _ => value.depth_toJson_le
  have path (path : List String) : (Json.strings path).depth ≤ 3 :=
    Json.depth_list_le fun _ _ => Nat.zero_le 2
  have location (location : SourceLocation) : location.toJson.depth ≤ 3 :=
    Nat.le_trans location.depth_toJson_le (by decide)
  rw [Json.depthOfMembers_present_le_iff]
  cases decl with
  | object kind decl =>
    simp [payload, ObjectDecl.parts, Json.depth, fields, path, location]
  | enum decl => simp [payload, EnumDecl.parts, Json.depth, values, location]
  | scalar decl => simp [payload, ScalarDecl.parts, Json.depth, location]

/-- A type is read back when the decoder of its kind reads the members beside the tag. -/
theorem reads_variant {depth : Nat} {decl : TypeDecl} {short : Json} {chosen : Decoder TypeDecl}
    (shallow : depth ≤ 124) (allowed : Abbreviation.type.Allows decl.toJson short)
    (picked : Decoder.pick (union depth).variants decl.kind.name = pure chosen)
    (reads : ∀ shorts, Abbreviated typeDefaults typeMember decl.payload shorts →
      chosen.Reads (.obj shorts) decl) :
    (union depth).decode.Reads short decl := by
  have fixed : (union depth).tag ∉ typeDefaults.map (·.1) := by simp [union, typeDefaults]
  rw [toJson_eq] at allowed
  exact Abbreviated.reads_tagged allowed decl.nodup_names rfl fixed decl.depth_payload_le
    (Nat.add_le_add_right shallow 3) picked reads

theorem decode_undoes {depth : Nat} (shallow : depth ≤ 124) :
    (union depth).decode.Undoes .type toJson := by
  intro decl short allowed
  cases decl with
  | object kind decl =>
    have reads (shorts) (fields : Abbreviated typeDefaults typeMember decl.parts shorts) :=
      (ObjectDecl.yields fields).reads (by decide) "ObjectTypeConfig"
    cases kind <;>
      exact reads_variant shallow allowed rfl fun shorts fields => (reads shorts fields).map _
  | enum decl =>
    refine reads_variant shallow allowed rfl fun shorts fields => ?_
    exact ((EnumDecl.yields fields).reads (by decide) "EnumTypeConfig").map enum
  | scalar decl =>
    refine reads_variant shallow allowed rfl fun shorts fields => ?_
    exact ((ScalarDecl.yields fields).reads (by decide) "ScalarTypeConfig").map scalar

end TypeDecl

theorem Access.decode_undoes : Access.decode.Undoes exact (.str ·.name) :=
  Decoder.undoes_exact fun access => Decoder.reads_oneOf (by cases access <;> rfl)

namespace Permission

def parts (permission : Permission) : List (String × Option Json) :=
  [("roles", some (Json.strings permission.roles)), ("access", some (.str permission.access.name))]

theorem decode_undoes : decode.Undoes .permission toJson := by
  refine Record.undoes parts _ (by decide) (fun _ => rfl) (fun _ => rfl)
    fun permission shorts fields => ?_
  have roles := fields.defaulted "roles" permission.roles [] undoes_strings (by simp [parts])
    (by simp [Json.strings, Json.list])
  have access := fields.required "access" permission.access Access.decode_undoes (by simp [parts])
    (by decide)
  exact (roles.map Permission.mk).seq access

end Permission

namespace ProfileDecl

def parts (profile : ProfileDecl) : List (String × Option Json) :=
  [("permissions", some (Json.list Permission.toJson profile.permissions)),
    ("location", profile.location.map SourceLocation.toJson)]

theorem toJson_eq (profile : ProfileDecl) :
    profile.toJson = .obj (Json.present profile.parts) := by
  simp [toJson, parts]

theorem decode_undoes : decode.Undoes .profile toJson := by
  refine Record.undoes parts _ (by decide) (fun _ => rfl) toJson_eq fun profile shorts fields => ?_
  have permissions := fields.defaulted "permissions" profile.permissions []
    (undoes_list Permission.decode_undoes) (by simp [parts]) (by simp [Json.list])
  have location := fields.optional "location" profile.location SourceLocation.decode_undoes
    (by simp [parts]) (by decide) (by simp)
  exact (permissions.map ProfileDecl.mk).seq location

end ProfileDecl

namespace Labels

def parts (labels : Labels) : List (String × Option Json) :=
  [("label", labels.label.map .str), ("hint", labels.hint.map .str)]

theorem toJson_eq (labels : Labels) : labels.toJson = .obj (Json.present labels.parts) := by
  simp [toJson, parts]

theorem decode_undoes : decode.Undoes .labels toJson := by
  refine Record.undoes parts _ (by decide) (fun _ => rfl) toJson_eq fun labels shorts fields => ?_
  have label := fields.optional "label" labels.label undoes_string (by simp [parts]) (by decide)
    (by simp)
  have hint := fields.optional "hint" labels.hint undoes_string (by simp [parts]) (by decide)
    (by simp)
  exact (label.map Labels.mk).seq hint

end Labels

/-- A map is left out where it is empty. -/
theorem Dictionary.eq_empty_of_toJson {α : Type} {write : α → Json} {dictionary : Dictionary α}
    (empty : dictionary.toJson write = .obj []) : dictionary = ∅ := by
  obtain ⟨entries, sorted⟩ := dictionary
  have none : entries = [] := by simpa [toJson] using empty
  cases none
  rfl

open Dictionary (eq_empty_of_toJson)

namespace TypeLabels

def parts (labels : TypeLabels) : List (String × Option Json) :=
  [("label", labels.label.map .str),
    ("labelPlural", labels.labelPlural.map .str),
    ("hint", labels.hint.map .str),
    ("fields", some (labels.fields.toJson Labels.toJson)),
    ("values", some (labels.values.toJson Labels.toJson))]

theorem toJson_eq (labels : TypeLabels) : labels.toJson = .obj (Json.present labels.parts) := by
  simp [toJson, parts]

theorem decode_undoes : decode.Undoes .typeLabels toJson := by
  refine Record.undoes parts _ (by decide) (fun _ => rfl) toJson_eq fun labels shorts fields => ?_
  have label := fields.optional "label" labels.label undoes_string (by simp [parts]) (by decide)
    (by simp)
  have labelPlural := fields.optional "labelPlural" labels.labelPlural undoes_string
    (by simp [parts]) (by decide) (by simp)
  have hint := fields.optional "hint" labels.hint undoes_string (by simp [parts]) (by decide)
    (by simp)
  have fieldLabels := fields.defaulted "fields" labels.fields ∅
    (undoes_dictionary Labels.decode_undoes) (by simp [parts]) (by simpa using eq_empty_of_toJson)
  have values := fields.defaulted "values" labels.values ∅
    (undoes_dictionary Labels.decode_undoes) (by simp [parts]) (by simpa using eq_empty_of_toJson)
  exact ((((label.map TypeLabels.mk).seq labelPlural).seq hint).seq fieldLabels).seq values

end TypeLabels

namespace Bundle

def parts (bundle : Bundle) : List (String × Option Json) :=
  [("language", some (.str bundle.language)),
    ("types", some (bundle.types.toJson TypeLabels.toJson)),
    ("location", bundle.location.map SourceLocation.toJson)]

theorem toJson_eq (bundle : Bundle) : bundle.toJson = .obj (Json.present bundle.parts) := by
  simp [toJson, parts]

theorem decode_undoes : decode.Undoes .bundle toJson := by
  refine Record.undoes parts _ (by decide) (fun _ => rfl) toJson_eq fun bundle shorts fields => ?_
  have language := fields.required "language" bundle.language undoes_string (by simp [parts])
    (by decide)
  have types := fields.defaulted "types" bundle.types ∅
    (undoes_dictionary TypeLabels.decode_undoes) (by simp [parts])
    (by simpa using eq_empty_of_toJson)
  have location := fields.optional "location" bundle.location SourceLocation.decode_undoes
    (by simp [parts]) (by decide) (by simp)
  exact ((language.map Bundle.mk).seq types).seq location

end Bundle

namespace Declarations

def parts (declarations : Declarations) : List (String × Option Json) :=
  [("types", some (Json.list TypeDecl.toJson declarations.types)),
    ("permissionProfiles", some (declarations.profiles.toJson ProfileDecl.toJson)),
    ("localizations", some (Json.list Bundle.toJson declarations.bundles))]

theorem decode_undoes : decode.Undoes .declarations toJson := by
  refine Record.undoes parts _ (by decide) (fun _ => rfl) (fun _ => rfl)
    fun declarations shorts fields => ?_
  have type := TypeDecl.decode_undoes (show 3 ≤ 124 by decide)
  have types := fields.defaulted "types" declarations.types [] (undoes_list type)
    (by simp [parts]) (by simp [Json.list])
  have profiles := fields.defaulted "permissionProfiles" declarations.profiles ∅
    (undoes_dictionary ProfileDecl.decode_undoes) (by simp [parts])
    (by simpa using eq_empty_of_toJson)
  have bundles := fields.defaulted "localizations" declarations.bundles []
    (undoes_list Bundle.decode_undoes) (by simp [parts]) (by simp [Json.list])
  exact ((types.map Declarations.mk).seq profiles).seq bundles

/-- Declarations are read back from what was written, and from every value that may stand for it. -/
theorem read_back (declarations : Declarations) :
    ofJson? declarations.toJson = .ok declarations ∧
      ∀ json, Abbreviation.declarations.Allows declarations.toJson json →
        ofJson? json = .ok declarations := by
  have every {json : Json} (allowed : Abbreviation.declarations.Allows declarations.toJson json) :
      ofJson? json = .ok declarations := by
    rw [ofJson?, Decoder.ofJson?, Decoder.run, decode_undoes allowed .json]
    rfl
  exact ⟨every (Abbreviation.declarations.self _), fun _ => every⟩

namespace Transport

def kind : TypeDecl :=
  .enum { name := "TransportKind",
          values := [{ value := "AIR" }, { value := "SEA", description := some "By ship" }] }

def leg : TypeDecl :=
  .object .rootEntity { name := "Leg", fields := [{ name := "kind", typeName := "TransportKind" }] }

def declarations : Declarations := { types := [kind, leg] }

/-- The first literal stands alone; the second has a description, so it cannot. -/
def shortKind : Json :=
  .obj [("kind", .str "ENUM"), ("name", .str "TransportKind"),
    ("values", .arr [.str "AIR",
      .obj [("value", .str "SEA"), ("description", .str "By ship")]])]

/-- No namespace and no flags, and the name before the kind. -/
def shortLeg : Json :=
  .obj [("name", .str "Leg"), ("kind", .str "ROOT_ENTITY"),
    ("fields", .arr [.obj [("name", .str "kind"), ("typeName", .str "TransportKind")]])]

def short : Json := .obj [("types", .arr [shortKind, shortLeg])]

open Abbreviation (allows_arr allows_obj)

theorem allows_shortKind : Abbreviation.type.Allows kind.toJson shortKind := by
  have air : Abbreviation.enumValue.Allows (EnumValueDecl.toJson { value := "AIR" }) (.str "AIR") :=
    .inr ⟨"AIR", rfl, rfl⟩
  have sea := Abbreviation.enumValue.self
    (EnumValueDecl.toJson { value := "SEA", description := some "By ship" })
  have values := allows_arr (.cons air (.cons sea .nil))
  exact allows_obj (.keep rfl (.keep rfl (.keep values .nil))) (.refl _)

theorem allows_shortLeg : Abbreviation.type.Allows leg.toJson shortLeg := by
  have field : Abbreviation.field.Allows
      (FieldDecl.toJson { name := "kind", typeName := "TransportKind" })
      (.obj [("name", .str "kind"), ("typeName", .str "TransportKind")]) :=
    allows_obj (.keep rfl (.keep rfl (.drop (by simp) (.drop (by simp) (.drop (by simp) .nil)))))
      (.refl _)
  have fields := allows_arr (.cons field .nil)
  exact allows_obj (.keep rfl (.keep rfl (.drop (.head _) (.keep fields .nil))))
    (.swap ..)

theorem read_short :
    Abbreviation.declarations.Allows declarations.toJson short ∧
      ofJson? short = .ok declarations := by
  have types := allows_arr (.cons allows_shortKind (.cons allows_shortLeg .nil))
  have allowed : Abbreviation.declarations.Allows declarations.toJson short :=
    allows_obj (.keep types (.drop (.tail _ (.head _)) (.drop (.tail _ (.tail _ (.head _))) .nil)))
      (.refl _)
  exact ⟨allowed, (read_back declarations).2 short allowed⟩

end Transport
end Declarations
end TypeGraph
