import TypeGraph.Localization
import Mathlib.Logic.Relation

/-! How labels fall back from one language to the next. Every property is searched for by itself, so
what two orders of languages find one after the other is found property by property: what the first
has, and else what the second has. A language that has been asked already, or that has no bundle, adds
nothing. -/
namespace TypeGraph

/-- What can be said of a type, a field or a value in a language. -/
inductive LabelProperty where
  | label
  | labelPlural
  | hint
  | fieldLabel (field : String)
  | fieldHint (field : String)
  | valueLabel (value : String)
  | valueHint (value : String)

/-- The property in the labels of a type, if they have it. -/
def LabelProperty.of? : LabelProperty → TypeLabels → Option String
  | label, labels => labels.label
  | labelPlural, labels => labels.labelPlural
  | hint, labels => labels.hint
  | fieldLabel field, labels => (labels.fields.get? field).bind (·.label)
  | fieldHint field, labels => (labels.fields.get? field).bind (·.hint)
  | valueLabel value, labels => (labels.values.get? value).bind (·.label)
  | valueHint value, labels => (labels.values.get? value).bind (·.hint)

/-- Each property of the first, or of the second where the first has none. -/
def Labels.orElse (first second : Labels) : Labels :=
  ⟨first.label.or second.label, first.hint.or second.hint⟩

/-- Each property of the first, or of the second where the first has none. -/
def TypeText.orElse (first second : TypeText) : TypeText :=
  ⟨first.label.or second.label, first.labelPlural.or second.labelPlural, first.hint.or second.hint⟩

namespace Localization

variable {bundles others : List Bundle} {order other before after : List String}
  {language type : String} {property : LabelProperty}

/-- The property in the first entry of the type that has it. -/
def search (bundles : List Bundle) (type : String) (property : LabelProperty) (order : List String) :
    Option String :=
  (entries bundles type order).findSome? property.of?

theorem findSome?_filterMap {Item Part Value : Type} (items : List Item) (part? : Item → Option Part)
    (value? : Part → Option Value) :
    (items.filterMap part?).findSome? value? = items.findSome? fun item => (part? item).bind value? := by
  induction items with
  | nil => rfl
  | cons item rest ih =>
    cases found : part? item with
    | none => rw [List.filterMap_cons_none found, List.findSome?_cons, found, ih]; rfl
    | some part =>
      rw [List.filterMap_cons_some found, List.findSome?_cons, List.findSome?_cons, found, ih]; rfl

theorem typeText_eq_search : typeText bundles type order =
    ⟨search bundles type .label order, search bundles type .labelPlural order,
      search bundles type .hint order⟩ :=
  rfl

theorem fieldLabels_eq_search {field : String} : fieldLabels bundles type field order =
    ⟨search bundles type (.fieldLabel field) order, search bundles type (.fieldHint field) order⟩ := by
  rw [fieldLabels, combine, findSome?_filterMap, findSome?_filterMap]
  rfl

theorem valueLabels_eq_search {value : String} : valueLabels bundles type value order =
    ⟨search bundles type (.valueLabel value) order, search bundles type (.valueHint value) order⟩ := by
  rw [valueLabels, combine, findSome?_filterMap, findSome?_filterMap]
  rfl

theorem search_append : search bundles type property (before ++ after) =
    (search bundles type property before).or (search bundles type property after) := by
  rw [search, entries, List.flatMap_append, List.findSome?_append]
  rfl

theorem search_cons : search bundles type property (language :: after) =
    (search bundles type property [language]).or (search bundles type property after) :=
  (search_append : search bundles type property ([language] ++ after) = _)

/-- A search fails if it fails in every language. -/
theorem search_eq_none_iff : search bundles type property order = none ↔
    ∀ language ∈ order, search bundles type property [language] = none := by
  induction order with
  | nil => simp [search, entries]
  | cons language rest ih => rw [search_cons, Option.or_eq_none_iff, ih, List.forall_mem_cons]

/-- A language that has been asked has nothing new to say. -/
theorem search_of_asked (asked : language ∈ before) :
    search bundles type property (before ++ language :: after) =
      search bundles type property (before ++ after) := by
  rw [search_append, search_cons, search_append]
  cases found : search bundles type property before with
  | some text => rfl
  | none => rw [search_eq_none_iff.mp found language asked, Option.none_or]

theorem search_of_unknown (unknown : language ∉ languages bundles) :
    search bundles type property (before ++ language :: after) =
      search bundles type property (before ++ after) := by
  have silent : bundles.filter (·.language == language) = [] := by
    simpa [languages, List.mem_eraseDups, List.filter_eq_nil_iff] using unknown
  have nothing : search bundles type property [language] = none := by
    simp [search, entries, silent]
  rw [search_append, search_cons, nothing, Option.none_or, ← search_append]

/-- Whatever is looked up among the first bundles in the one order of languages is what is found among
the second in the other. -/
structure AnswersAlike (bundles : List Bundle) (order : List String) (others : List Bundle)
    (other : List String) : Prop where
  types : ∀ type, typeText bundles type order = typeText others type other
  fields : ∀ type field, fieldLabels bundles type field order = fieldLabels others type field other
  values : ∀ enum value, valueLabels bundles enum value order = valueLabels others enum value other

theorem answersAlike_of_search (same : ∀ type property,
    search bundles type property order = search others type property other) :
    AnswersAlike bundles order others other := by
  constructor
  case types =>
    intro type
    simp only [typeText_eq_search, same]
  case fields =>
    intro type field
    simp only [fieldLabels_eq_search, same]
  case values =>
    intro enum value
    simp only [valueLabels_eq_search, same]

/-- What is found in the languages of two orders together is what is found in the first, and property by
property what is found in the second where the first has none. -/
structure FallsBack (bundles : List Bundle) (first second : List String) : Prop where
  types : ∀ type, typeText bundles type (first ++ second) =
    (typeText bundles type first).orElse (typeText bundles type second)
  fields : ∀ type field, fieldLabels bundles type field (first ++ second) =
    (fieldLabels bundles type field first).orElse (fieldLabels bundles type field second)
  values : ∀ enum value, valueLabels bundles enum value (first ++ second) =
    (valueLabels bundles enum value first).orElse (valueLabels bundles enum value second)

theorem fallsBack (bundles : List Bundle) (first second : List String) :
    FallsBack bundles first second := by
  constructor
  case types =>
    intro type
    simp only [typeText_eq_search, search_append, TypeText.orElse]
  case fields =>
    intro type field
    simp only [fieldLabels_eq_search, search_append, Labels.orElse]
  case values =>
    intro enum value
    simp only [valueLabels_eq_search, search_append, Labels.orElse]

/-- An order loses one language that is not missed: it stands there a second time, or no bundle is in
it. -/
inductive Drops (bundles : List Bundle) : List String → List String → Prop where
  | repeated {before after : List String} {language : String} (asked : language ∈ before) :
      Drops bundles (before ++ language :: after) (before ++ after)
  | unknown {before after : List String} {language : String}
      (unknown : language ∉ languages bundles) :
      Drops bundles (before ++ language :: after) (before ++ after)

theorem Drops.search_eq (drops : Drops bundles order other) :
    search bundles type property order = search bundles type property other := by
  cases drops with
  | repeated asked => exact search_of_asked asked
  | unknown unknown => exact search_of_unknown unknown

theorem search_of_dropped (dropped : Relation.ReflTransGen (Drops bundles) order other) :
    search bundles type property order = search bundles type property other := by
  induction dropped with
  | refl => rfl
  | tail _ drops ih => exact ih.trans drops.search_eq

/-- Fallback goes property by property, so it does not matter where an order of languages is cut, and
languages that are repeated or unknown can be dropped from it. -/
theorem fallback_composes (bundles : List Bundle) :
    (∀ first second, FallsBack bundles first second) ∧
      ∀ order other, Relation.ReflTransGen (Drops bundles) order other →
        AnswersAlike bundles order bundles other := by
  refine ⟨fallsBack bundles, fun order other dropped => ?_⟩
  exact answersAlike_of_search fun _ _ => search_of_dropped dropped

/-- Shipments in German and English; only the English labels are complete. -/
def shipments : List Bundle := [
  { language := "de", types := .ofList [("Shipment", {
    label := some "Lieferung"
    fields := .ofList [("deliveries", { label := some "Zustellungen" })] })] },
  { language := "en", types := .ofList [("Shipment", {
    label := some "Shipment"
    labelPlural := some "Shipments"
    hint := some "A consignment"
    fields := .ofList [("deliveries", { label := some "Deliveries", hint := some "All of them" })] })] }]

/-- There is no French bundle, and German has been asked before: the order comes down to two languages,
and what German lacks is found in English. -/
theorem shipments_in_german :
    Relation.ReflTransGen (Drops shipments) ["de", "fr", "en", "de"] ["de", "en"] ∧
      typeText shipments "Shipment" ["de", "fr", "en", "de"] =
        ⟨some "Lieferung", some "Shipments", some "A consignment"⟩ := by
  have unknown : Drops shipments ["de", "fr", "en", "de"] ["de", "en", "de"] :=
    @Drops.unknown shipments ["de"] ["en", "de"] "fr" (by decide)
  have repeated : Drops shipments ["de", "en", "de"] ["de", "en"] :=
    @Drops.repeated shipments ["de", "en"] [] "de" (by decide)
  have dropped := (Relation.ReflTransGen.single unknown).tail repeated
  obtain ⟨composes, drops⟩ := fallback_composes shipments
  refine ⟨dropped, ?_⟩
  calc typeText shipments "Shipment" ["de", "fr", "en", "de"]
      = typeText shipments "Shipment" ["de", "en"] := (drops _ _ dropped).types "Shipment"
    _ = (typeText shipments "Shipment" ["de"]).orElse (typeText shipments "Shipment" ["en"]) :=
      (composes ["de"] ["en"]).types "Shipment"
    _ = _ := by decide +kernel

end Localization
end TypeGraph
