import TypeGraph.Proofs.Dictionary
import TypeGraph.Proofs.LabelFallback

/-! How labels are distributed over bundles. A search asks the bundles of one language in their order
and takes each property where it first comes, so bundles of different languages may change places, and
two bundles of one language that stand together are as good as one with the properties of both. -/
namespace TypeGraph

/-- The labels of both, property by property those of the first where it has them. -/
def TypeLabels.combine (first second : TypeLabels) : TypeLabels where
  label := first.label.or second.label
  labelPlural := first.labelPlural.or second.labelPlural
  hint := first.hint.or second.hint
  fields := first.fields.unionWith Labels.orElse second.fields
  values := first.values.unionWith Labels.orElse second.values

/-- One bundle for two of one language, type by type with the labels of both. -/
def Bundle.combine (first second : Bundle) : Bundle where
  language := first.language
  types := first.types.unionWith TypeLabels.combine second.types
  location := first.location

/-- What respects a combination of entries finds in combined dictionaries what it finds in the first, and
else in the second. -/
theorem Dictionary.bind_unionWith {Entry Part : Type} {combine : Entry → Entry → Entry}
    {part? : Entry → Option Part}
    (respects : ∀ early late, part? (combine early late) = (part? early).or (part? late))
    (first second : Dictionary Entry) (key : String) :
    ((first.unionWith combine second).get? key).bind part? =
      ((first.get? key).bind part?).or ((second.get? key).bind part?) := by
  rw [Dictionary.get?_unionWith]
  cases first.get? key with
  | none => cases second.get? key <;> rfl
  | some early =>
    cases second.get? key with
    | none => simp
    | some late => exact respects early late

theorem LabelProperty.of?_combine (property : LabelProperty) (first second : TypeLabels) :
    property.of? (first.combine second) = (property.of? first).or (property.of? second) := by
  cases property with
  | label | labelPlural | hint => rfl
  | fieldLabel name | fieldHint name =>
    exact Dictionary.bind_unionWith (fun _ _ => rfl) first.fields second.fields name
  | valueLabel name | valueHint name =>
    exact Dictionary.bind_unionWith (fun _ _ => rfl) first.values second.values name

namespace Localization

variable {bundles others : List Bundle} {first second : Bundle} {language type : String}
  {property : LabelProperty} {order : List String}

/-- The property in what a bundle says of the type. -/
def told? (type : String) (property : LabelProperty) (bundle : Bundle) : Option String :=
  (bundle.types.get? type).bind property.of?

theorem told?_combine : told? type property (first.combine second) =
    (told? type property first).or (told? type property second) :=
  Dictionary.bind_unionWith property.of?_combine first.types second.types type

/-- In one language the first bundle that has the property tells it. -/
theorem search_singleton : search bundles type property [language] =
    (bundles.filter (·.language == language)).findSome? (told? type property) := by
  rw [search, entries, List.flatMap_singleton, findSome?_filterMap]
  rfl

/-- Bundles that agree in every single language agree in any order of languages. -/
theorem search_of_each (same : ∀ language,
    search bundles type property [language] = search others type property [language]) :
    search bundles type property order = search others type property order := by
  induction order with
  | nil => rfl
  | cons language rest ih => rw [search_cons, same, ih, ← search_cons]

/-- The same labels, in other bundles: bundles of different languages change places, those of one
language being kept in their order, or two bundles of one language that stand together are made one.
Bundles may also be divided again, and all this may be done any number of times. -/
inductive Redistributed : List Bundle → List Bundle → Prop where
  | reordered {bundles others : List Bundle} (kept : ∀ language,
      bundles.filter (·.language == language) = others.filter (·.language == language)) :
      Redistributed bundles others
  | combined {before after : List Bundle} {first second : Bundle}
      (same : first.language = second.language) :
      Redistributed (before ++ first :: second :: after) (before ++ first.combine second :: after)
  | symm {bundles others : List Bundle} (same : Redistributed bundles others) :
      Redistributed others bundles
  | trans {bundles between others : List Bundle} (first : Redistributed bundles between)
      (second : Redistributed between others) : Redistributed bundles others

theorem search_of_combined {before after : List Bundle} (same : first.language = second.language) :
    search (before ++ first :: second :: after) type property [language] =
      search (before ++ first.combine second :: after) type property [language] := by
  rw [search_singleton, search_singleton, List.filter_append, List.filter_append,
    List.findSome?_append, List.findSome?_append]
  refine congrArg (Option.or _) ?_
  have both : (first.combine second).language = second.language := same
  cases asked : second.language == language with
  | true =>
    simp only [List.filter_cons, same, both, asked, if_true, List.findSome?_cons, told?_combine]
    cases told? type property first <;> cases told? type property second <;> rfl
  | false => simp only [List.filter_cons, same, both, asked, Bool.false_eq_true, if_false]

theorem Redistributed.search_eq (redistributed : Redistributed bundles others) :
    search bundles type property [language] = search others type property [language] := by
  induction redistributed with
  | reordered kept => rw [search_singleton, search_singleton, kept]
  | combined same => exact search_of_combined same
  | symm _ ih => exact ih.symm
  | trans _ _ left right => exact left.trans right

/-- It does not matter how labels are distributed over the bundles of a language, and how bundles of
different languages stand among each other. -/
theorem distribution_does_not_matter (redistributed : Redistributed bundles others)
    (order : List String) : AnswersAlike bundles order others order :=
  answersAlike_of_search fun _ _ => search_of_each fun _ => redistributed.search_eq

namespace Scattered

/-- What a bundle in the language says of shipments and nothing else. -/
def bundle (language : String) (labels : TypeLabels) : Bundle where
  language := language
  types := .ofList [("Shipment", labels)]

def german : Bundle := bundle "de" { label := some "Lieferung" }

def moreGerman : Bundle := bundle "de" {
  label := some "Versand"
  fields := .ofList [("deliveries", { label := some "Zustellungen" })] }

def english : Bundle := bundle "en" {
  hint := some "A consignment"
  fields := .ofList [("deliveries", { hint := some "All of them" })] }

/-- English in between keeps the German bundles apart, but it may as well come first. -/
theorem together : Redistributed [german, english, moreGerman] [english, german.combine moreGerman] ∧
    typeText [english, german.combine moreGerman] "Shipment" ["de", "en"] =
      ⟨some "Lieferung", none, some "A consignment"⟩ ∧
    fieldLabels [english, german.combine moreGerman] "Shipment" "deliveries" ["de", "en"] =
      ⟨some "Zustellungen", some "All of them"⟩ := by
  have moved : Redistributed [german, english, moreGerman] [english, german, moreGerman] := by
    refine .reordered fun language => ?_
    by_cases asked : "de" = language
    · subst asked
      rfl
    · simp [german, english, moreGerman, bundle, List.filter_cons, asked]
  have united : Redistributed [english, german, moreGerman] [english, german.combine moreGerman] :=
    @Redistributed.combined [english] [] german moreGerman rfl
  have alike := distribution_does_not_matter (moved.trans united) ["de", "en"]
  refine ⟨moved.trans united, ?_, ?_⟩
  · rw [← alike.types]
    decide +kernel
  · rw [← alike.fields]
    decide +kernel

end Scattered
end Localization
end TypeGraph
