import TypeGraph.Proofs.RoundTrip
import TypeGraph.View.Decode
import TypeGraph.View.Encode

/-! Snapshots and reports are read back as they were written. Nothing in them has a default: a member
that may be missing is either left out where it has no value or written as null, and the reader takes
each for what it is. A type is told by its kind, and a root entity has its key among the members of its
object. -/
namespace TypeGraph

open Abbreviation (exact)
open Decoder (undoes_string undoes_bool undoes_strings undoes_list undoes_nullable)

/-- The members of a view, in any order. -/
def Abbreviation.view : Abbreviation := record [] fun _ => exact

variable {shorts : List (String × Json)}

/-- All of the parts that have a value, in any order and nothing else: no part has a default. -/
abbrev Shown (parts : List (String × Option Json)) (shorts : List (String × Json)) : Prop :=
  Abbreviated [] (fun _ => exact) parts shorts

namespace Shown
variable {α : Type} {decode : Decoder α} {write : α → Json} {parts : List (String × Option Json)}

theorem required (shown : Shown parts shorts) (name : String) (value : α)
    (undoes : decode.Undoes exact write) (here : (name, some (write value)) ∈ parts) :
    (Record.required name decode).Yields shorts value :=
  Abbreviated.required shown name value undoes here List.not_mem_nil

theorem optional (shown : Shown parts shorts) (name : String) (value : Option α)
    (undoes : decode.Undoes exact write) (here : (name, value.map write) ∈ parts)
    (notNull : ∀ value, write value ≠ .null) : (Record.optional name decode).Yields shorts value :=
  Abbreviated.optional shown name value undoes here List.not_mem_nil notNull

/-- A part that is written as null where it has no value is always there. -/
theorem nullable (shown : Shown parts shorts) (name : String) (value : Option α)
    (undoes : decode.Undoes exact write) (here : (name, some (Json.nullable write value)) ∈ parts)
    (notNull : ∀ value, write value ≠ .null) : (Record.nullable name decode).Yields shorts value :=
  Abbreviated.field shown (undoes_nullable undoes notNull) here fun default => nomatch default

end Shown

/-- A view is read back when each of its fields is. -/
theorem Record.undoes_view {α : Type} {record : Record α} {write : α → Json}
    (parts : α → List (String × Option Json)) (title : String) (distinct : record.names.Nodup)
    (names : ∀ view, (parts view).map (·.1) = record.names)
    (written : ∀ view, write view = .obj (Json.present (parts view)))
    (fields : ∀ view shorts, Shown (parts view) shorts → record.Yields shorts view) :
    (record.decode title).Undoes .view write :=
  Record.undoes parts title distinct names written fields

theorem Kind.decode_undoes : decode.Undoes exact (.str ·.name) :=
  Decoder.undoes_exact fun kind => Decoder.reads_oneOf <| by
    cases kind with
    | scalar => rfl
    | enum => rfl
    | object kind => cases kind <;> rfl

theorem Severity.decode_undoes : decode.Undoes exact (.str ·.name) :=
  Decoder.undoes_exact fun severity => Decoder.reads_oneOf (by cases severity <;> rfl)

namespace Message

def parts (message : Message) : List (String × Option Json) :=
  [("severity", some (.str message.severity.name)),
    ("message", some (.str message.text)),
    ("location", message.location.map SourceLocation.toJson)]

theorem toJson_eq (message : Message) : message.toJson = .obj (Json.present message.parts) := by
  simp [toJson, parts]

theorem decode_undoes : decode.Undoes .view toJson := by
  refine Record.undoes_view parts _ (by decide) (fun _ => rfl) toJson_eq fun message shorts fields => ?_
  have severity := fields.required "severity" message.severity Severity.decode_undoes
    (by simp [parts])
  have text := fields.required "message" message.text undoes_string (by simp [parts])
  have location := fields.optional "location" message.location SourceLocation.decode_undoes.exact
    (by simp [parts]) (by simp)
  exact ((severity.map Message.mk).seq text).seq location

end Message

namespace Report

def parts (report : Report) : List (String × Option Json) :=
  [("messages", some (Json.list Message.toJson report.messages))]

theorem decode_undoes : decode.Undoes .view toJson := by
  refine Record.undoes_view parts _ (by decide) (fun _ => rfl) (fun _ => rfl)
    fun report shorts fields => ?_
  have messages := fields.required "messages" report.messages
    (undoes_list Message.decode_undoes).exact (by simp [parts])
  exact messages.map Report.mk

end Report

namespace FieldView

def parts (view : FieldView) : List (String × Option Json) :=
  [("name", some (.str view.name)),
    ("typeName", some (.str view.typeName)),
    ("typeKind", some (Json.nullable (.str ·.name) view.typeKind)),
    ("isList", some (.bool view.isList)),
    ("isReference", some (.bool view.isReference)),
    ("isRelation", some (.bool view.isRelation)),
    ("isSystemField", some (.bool view.isSystemField)),
    ("inverseOfFieldName", view.inverseOf.map .str)]

theorem toJson_eq (view : FieldView) : view.toJson = .obj (Json.present view.parts) := by
  simp [toJson, parts]

theorem decode_undoes : decode.Undoes .view toJson := by
  refine Record.undoes_view parts _ (by decide) (fun _ => rfl) toJson_eq fun view shorts fields => ?_
  have name := fields.required "name" view.name undoes_string (by simp [parts])
  have typeName := fields.required "typeName" view.typeName undoes_string (by simp [parts])
  have typeKind := fields.nullable "typeKind" view.typeKind Kind.decode_undoes
    (by simp [parts]) (by simp)
  have isList := fields.required "isList" view.isList undoes_bool (by simp [parts])
  have isReference := fields.required "isReference" view.isReference undoes_bool (by simp [parts])
  have isRelation := fields.required "isRelation" view.isRelation undoes_bool (by simp [parts])
  have isSystemField := fields.required "isSystemField" view.isSystemField undoes_bool
    (by simp [parts])
  have inverseOf := fields.optional "inverseOfFieldName" view.inverseOf undoes_string
    (by simp [parts]) (by simp)
  exact (((((((name.map FieldView.mk).seq typeName).seq typeKind).seq isList).seq isReference).seq
    isRelation).seq isSystemField).seq inverseOf

theorem depth_toJson_le (view : FieldView) : view.toJson.depth ≤ 1 := by
  have kind : (Json.nullable (.str ·.name) view.typeKind).depth = 0 := by
    cases view.typeKind <;> rfl
  rw [toJson_eq, Json.depth, Nat.succ_le_succ_iff, Json.depthOfMembers_present_le_iff]
  simp [parts, Json.depth, kind]

end FieldView

namespace EnumValueView

def parts (view : EnumValueView) : List (String × Option Json) :=
  [("value", some (.str view.value)),
    ("description", view.description.map .str),
    ("deprecationReason", view.deprecationReason.map .str)]

theorem toJson_eq (view : EnumValueView) : view.toJson = .obj (Json.present view.parts) := by
  simp [toJson, parts]

theorem decode_undoes : decode.Undoes .view toJson := by
  refine Record.undoes_view parts _ (by decide) (fun _ => rfl) toJson_eq fun view shorts fields => ?_
  have value := fields.required "value" view.value undoes_string (by simp [parts])
  have description := fields.optional "description" view.description undoes_string
    (by simp [parts]) (by simp)
  have reason := fields.optional "deprecationReason" view.deprecationReason undoes_string
    (by simp [parts]) (by simp)
  exact ((value.map EnumValueView.mk).seq description).seq reason

theorem depth_toJson_le (view : EnumValueView) : view.toJson.depth ≤ 1 := by
  rw [toJson_eq, Json.depth, Nat.succ_le_succ_iff, Json.depthOfMembers_present_le_iff]
  simp [parts, Json.depth]

end EnumValueView

namespace ScalarView

def parts (view : ScalarView) : List (String × Option Json) :=
  [("name", some (.str view.name)),
    ("description", view.description.map .str),
    ("isBuiltIn", some (.bool view.isBuiltIn))]

theorem members_eq (view : ScalarView) : view.members = Json.present view.parts := by
  simp [members, parts]

theorem yields {view : ScalarView} (fields : Shown view.parts shorts) :
    record.Yields shorts view := by
  have name := fields.required "name" view.name undoes_string (by simp [parts])
  have description := fields.optional "description" view.description undoes_string
    (by simp [parts]) (by simp)
  have isBuiltIn := fields.required "isBuiltIn" view.isBuiltIn undoes_bool (by simp [parts])
  exact ((name.map ScalarView.mk).seq description).seq isBuiltIn

end ScalarView

namespace EnumView

def parts (view : EnumView) : List (String × Option Json) :=
  [("name", some (.str view.name)),
    ("description", view.description.map .str),
    ("values", some (Json.list EnumValueView.toJson view.values))]

theorem members_eq (view : EnumView) : view.members = Json.present view.parts := by
  simp [members, parts]

theorem yields {view : EnumView} (fields : Shown view.parts shorts) :
    record.Yields shorts view := by
  have name := fields.required "name" view.name undoes_string (by simp [parts])
  have description := fields.optional "description" view.description undoes_string
    (by simp [parts]) (by simp)
  have values := fields.required "values" view.values
    (undoes_list EnumValueView.decode_undoes).exact (by simp [parts])
  exact ((name.map EnumView.mk).seq description).seq values

end EnumView

namespace ObjectView

def parts (view : ObjectView) : List (String × Option Json) :=
  [("name", some (.str view.name)),
    ("description", view.description.map .str),
    ("namespacePath", some (Json.strings view.namespacePath)),
    ("fields", some (Json.list FieldView.toJson view.fields))]

theorem members_eq (view : ObjectView) : view.members = Json.present view.parts := by
  simp [members, parts]

theorem yields {view : ObjectView} (fields : Shown view.parts shorts) :
    record.Yields shorts view := by
  have name := fields.required "name" view.name undoes_string (by simp [parts])
  have description := fields.optional "description" view.description undoes_string
    (by simp [parts]) (by simp)
  have namespacePath := fields.required "namespacePath" view.namespacePath undoes_strings
    (by simp [parts])
  have ownFields := fields.required "fields" view.fields
    (undoes_list FieldView.decode_undoes).exact (by simp [parts])
  exact (((name.map ObjectView.mk).seq description).seq namespacePath).seq ownFields

end ObjectView

namespace TypeView

variable {members : List (String × Json)} {json : Json} {key : Option String}

theorem readKeyField_absent (absent : "keyField" ∉ members.map (·.1))
    (found : Option (Option String)) :
    readKeyField found (Tree.ofMembers members) = pure (found.join, Tree.ofMembers members) := by
  induction members with
  | nil => rfl
  | cons member rest ih =>
    simp only [List.map_cons, List.mem_cons, not_or] at absent
    simp [Tree.ofMembers, readKeyField, Tree.text, Ne.symm absent.1, ih absent.2]

/-- The key field is taken out wherever it stands, and the other members stay as they are. -/
theorem readKeyField_present (present : ("keyField", json) ∈ members)
    (distinct : (members.map (·.1)).Nodup) (reads : (Decoder.nullable .string).Reads json key) :
    readKeyField none (Tree.ofMembers members) =
      pure (key, Tree.ofMembers (members.filter (·.1 ≠ "keyField"))) := by
  induction members with
  | nil => cases present
  | cons member rest ih =>
    obtain ⟨fresh, distinct⟩ := List.nodup_cons.mp distinct
    rcases List.mem_cons.mp present with rfl | later
    · have others : (("keyField", json) :: rest).filter (·.1 ≠ "keyField") = rest := by
        rw [List.filter_cons_of_neg (by simp), filter_key_ne_of_fresh fresh]
      rw [others]
      simp [Tree.ofMembers, readKeyField, Tree.text, reads .whole, readKeyField_absent fresh]
    · have apart : member.1 ≠ "keyField" := (key_ne_of_fresh fresh later).symm
      simp [Tree.ofMembers, readKeyField, Tree.text, apart, ih later distinct]

/-- The part that a root entity has beside those of its object. -/
def keyPart (key : Option String) : String × Option Json :=
  ("keyField", some (Json.nullable .str key))

/-- The parts that a kind of types has of its own. -/
def payload : TypeView → List (String × Option Json)
  | scalar view => view.parts
  | enum view => view.parts
  | rootEntity view key => view.parts ++ [keyPart key]
  | childEntity view | entityExtension view | valueObject view => view.parts

def parts (view : TypeView) : List (String × Option Json) :=
  ("kind", some (.str view.kind.name)) :: view.payload

theorem toJson_eq (view : TypeView) : view.toJson = .obj (Json.present view.parts) := by
  cases view with
  | scalar view => simp [toJson, TypeView.members, parts, payload, view.members_eq]
  | enum view => simp [toJson, TypeView.members, parts, payload, view.members_eq]
  | rootEntity view key =>
    simp [toJson, TypeView.members, parts, payload, keyPart, view.members_eq, Json.present]
  | childEntity view => simp [toJson, TypeView.members, parts, payload, view.members_eq]
  | entityExtension view => simp [toJson, TypeView.members, parts, payload, view.members_eq]
  | valueObject view => simp [toJson, TypeView.members, parts, payload, view.members_eq]

theorem nodup_names (view : TypeView) : (view.parts.map (·.1)).Nodup := by
  cases view with
  | scalar view => simp [parts, payload, ScalarView.parts]
  | enum view => simp [parts, payload, EnumView.parts]
  | rootEntity view key => simp [parts, payload, keyPart, ObjectView.parts]
  | childEntity view => simp [parts, payload, ObjectView.parts]
  | entityExtension view => simp [parts, payload, ObjectView.parts]
  | valueObject view => simp [parts, payload, ObjectView.parts]

theorem reads_root {view : ObjectView} (fields : Shown (rootEntity view key).payload shorts) :
    decodeRoot.Reads (.obj shorts) (rootEntity view key) := by
  intro dialect
  obtain ⟨_, present, rfl⟩ | ⟨default, _⟩ :=
    fields.shown (List.mem_append_right view.parts (List.mem_singleton_self (keyPart key)))
  · have reads := undoes_nullable undoes_string (by simp) (rfl : Json.nullable .str key = _)
    have fresh : "keyField" ∉ view.parts.map (·.1) := by simp [ObjectView.parts]
    have others := ObjectView.yields (fields.drop (List.subset_append_left ..) fresh)
    have object := others.ofEntries_eq (by decide) .whole
    simp only [decodeRoot, Tree.ofJson, readKeyField_present present fields.distinct reads, object,
      pure_bind]
  · cases default

/-- How the members of a written type mark it: none has the name of another, the kind has its one
spelling, and a key field, perhaps null, stands there for a root entity and for no other type. -/
structure MarkedBy (view : TypeView) (members : List (String × Json)) : Prop where
  distinct : (members.map (·.1)).Nodup
  kind : ∀ value, ("kind", value) ∈ members ↔ value = .str view.kind.name
  keyField : ∀ value, ("keyField", value) ∈ members ↔
    ∃ object key, view = rootEntity object key ∧ value = Json.nullable .str key

theorem markedBy_parts (view : TypeView) : view.MarkedBy (Json.present view.parts) where
  distinct := view.nodup_names.sublist (Json.present_names_sublist _)
  kind value := by
    rw [Json.mem_present_iff]
    cases view <;> simp [parts, payload, keyPart, ScalarView.parts, EnumView.parts, ObjectView.parts]
  keyField value := by
    rw [Json.mem_present_iff]
    cases view <;> simp [parts, payload, keyPart, ScalarView.parts, EnumView.parts, ObjectView.parts]

theorem depth_payload_le (view : TypeView) :
    Json.depthOfMembers (Json.present view.payload) ≤ 2 := by
  have fields (fields : List FieldView) : (Json.list FieldView.toJson fields).depth ≤ 2 :=
    Json.depth_list_le fun field _ => field.depth_toJson_le
  have values (values : List EnumValueView) : (Json.list EnumValueView.toJson values).depth ≤ 2 :=
    Json.depth_list_le fun value _ => value.depth_toJson_le
  have path (path : List String) : (Json.strings path).depth ≤ 2 :=
    Json.depth_list_le fun _ _ => Nat.zero_le 1
  have noneDeep (key : Option String) : (Json.nullable .str key).depth = 0 := by
    cases key <;> rfl
  rw [Json.depthOfMembers_present_le_iff]
  cases view with
  | scalar view => simp [payload, ScalarView.parts, Json.depth]
  | enum view => simp [payload, EnumView.parts, Json.depth, values]
  | rootEntity view key =>
    simp [payload, keyPart, ObjectView.parts, Json.depth, fields, path, noneDeep]
  | childEntity view => simp [payload, ObjectView.parts, Json.depth, fields, path]
  | entityExtension view => simp [payload, ObjectView.parts, Json.depth, fields, path]
  | valueObject view => simp [payload, ObjectView.parts, Json.depth, fields, path]

/-- A type is read back when the decoder of its kind reads the members beside the tag. -/
theorem reads_variant {depth : Nat} {view : TypeView} {short : Json} {chosen : Decoder TypeView}
    (shallow : depth ≤ 125) (allowed : Abbreviation.view.Allows view.toJson short)
    (picked : Decoder.pick (union depth).variants view.kind.name = pure chosen)
    (reads : ∀ shorts, Shown view.payload shorts → chosen.Reads (.obj shorts) view) :
    (union depth).decode.Reads short view := by
  rw [toJson_eq] at allowed
  exact Abbreviated.reads_tagged allowed view.nodup_names rfl (by simp) view.depth_payload_le
    (Nat.add_le_add_right shallow 2) picked reads

theorem decode_undoes {depth : Nat} (shallow : depth ≤ 125) :
    (union depth).decode.Undoes .view toJson := by
  intro view short allowed
  have object (view : ObjectView) (shorts) (fields : Shown view.parts shorts) :
      ObjectView.decode.Reads (.obj shorts) view :=
    (ObjectView.yields fields).reads (by decide) "ObjectTypeView"
  cases view with
  | scalar view =>
    refine reads_variant shallow allowed rfl fun shorts fields => ?_
    exact ((ScalarView.yields fields).reads (by decide) "ScalarTypeView").map scalar
  | enum view =>
    refine reads_variant shallow allowed rfl fun shorts fields => ?_
    exact ((EnumView.yields fields).reads (by decide) "EnumTypeView").map enum
  | rootEntity view key =>
    exact reads_variant shallow allowed rfl fun shorts fields => reads_root fields
  | childEntity view =>
    exact reads_variant shallow allowed rfl fun shorts fields =>
      (object view shorts fields).map childEntity
  | entityExtension view =>
    exact reads_variant shallow allowed rfl fun shorts fields =>
      (object view shorts fields).map entityExtension
  | valueObject view =>
    exact reads_variant shallow allowed rfl fun shorts fields =>
      (object view shorts fields).map valueObject

end TypeView

namespace RelationView

def parts (view : RelationView) : List (String × Option Json) :=
  [("fromType", some (.str view.fromType)),
    ("fromField", some (.str view.fromField)),
    ("toType", some (.str view.toType)),
    ("toField", some (Json.nullable .str view.toField))]

theorem decode_undoes : decode.Undoes .view toJson := by
  refine Record.undoes_view parts _ (by decide) (fun _ => rfl) (fun _ => rfl)
    fun view shorts fields => ?_
  have fromType := fields.required "fromType" view.fromType undoes_string (by simp [parts])
  have fromField := fields.required "fromField" view.fromField undoes_string (by simp [parts])
  have toType := fields.required "toType" view.toType undoes_string (by simp [parts])
  have toField := fields.nullable "toField" view.toField undoes_string (by simp [parts]) (by simp)
  exact (((fromType.map RelationView.mk).seq fromField).seq toType).seq toField

end RelationView

namespace NamespaceView

def parts (view : NamespaceView) : List (String × Option Json) :=
  [("name", some (Json.nullable .str view.name)),
    ("path", some (Json.strings view.path)),
    ("isRoot", some (.bool view.isRoot))]

theorem decode_undoes : decode.Undoes .view toJson := by
  refine Record.undoes_view parts _ (by decide) (fun _ => rfl) (fun _ => rfl)
    fun view shorts fields => ?_
  have name := fields.nullable "name" view.name undoes_string (by simp [parts]) (by simp)
  have path := fields.required "path" view.path undoes_strings (by simp [parts])
  have isRoot := fields.required "isRoot" view.isRoot undoes_bool (by simp [parts])
  exact ((name.map NamespaceView.mk).seq path).seq isRoot

end NamespaceView

namespace Snapshot

def parts (snapshot : Snapshot) : List (String × Option Json) :=
  [("types", some (Json.list TypeView.toJson snapshot.types)),
    ("relations", some (Json.list RelationView.toJson snapshot.relations)),
    ("namespaces", some (Json.list NamespaceView.toJson snapshot.namespaces))]

theorem decode_undoes : decode.Undoes .view toJson := by
  refine Record.undoes_view parts _ (by decide) (fun _ => rfl) (fun _ => rfl)
    fun snapshot shorts fields => ?_
  have type := TypeView.decode_undoes (show 3 ≤ 125 by decide)
  have types := fields.required "types" snapshot.types (undoes_list type).exact (by simp [parts])
  have relations := fields.required "relations" snapshot.relations
    (undoes_list RelationView.decode_undoes).exact (by simp [parts])
  have namespaces := fields.required "namespaces" snapshot.namespaces
    (undoes_list NamespaceView.decode_undoes).exact (by simp [parts])
  exact ((types.map Snapshot.mk).seq relations).seq namespaces

end Snapshot

/-- A written value is read back by the rules of any dialect. -/
theorem Decoder.Undoes.run_eq {α : Type} {decode : Decoder α} {form : Abbreviation} {write : α → Json}
    (undoes : decode.Undoes form write) (value : α) (dialect : Dialect) :
    decode.run dialect (.ofJson (write value)) 0 = .ok value := by
  rw [run, undoes (form.self (write value)) dialect]
  rfl

/-- Snapshots and reports are read back as they were written, and types are written with the marks of
their kinds. -/
theorem output_read_back :
    (∀ (snapshot : Snapshot) (dialect : Dialect),
      Snapshot.decode.run dialect (.ofJson snapshot.toJson) 0 = .ok snapshot) ∧
    (∀ (report : Report) (dialect : Dialect),
      Report.decode.run dialect (.ofJson report.toJson) 0 = .ok report) ∧
    ∀ view : TypeView, ∃ members, view.toJson = .obj members ∧ view.MarkedBy members := by
  refine ⟨Snapshot.decode_undoes.run_eq, Report.decode_undoes.run_eq, fun view => ?_⟩
  exact ⟨_, view.toJson_eq, view.markedBy_parts⟩

/-- A root entity without a key field says so. -/
example : (TypeView.rootEntity ⟨"Country", none, ["generic"], []⟩ none).toJson =
    .obj [("kind", .str "ROOT_ENTITY"), ("name", .str "Country"),
      ("namespacePath", .arr [.str "generic"]), ("fields", .arr []), ("keyField", .null)] := rfl

end TypeGraph
