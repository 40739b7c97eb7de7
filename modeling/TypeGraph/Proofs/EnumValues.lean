import TypeGraph.Validation
import TypeGraph.Proofs.Conventions
import Mathlib.Data.Finset.Card
import Mathlib.Data.List.ReduceOption

/-! How validation tells the values of an enum apart. It goes through them with the literals that it has
seen, and leaves off at the first rule that a literal breaks. Yet what is said of a literal depends only
on how it is written and on whether it has stood before: each has one standing among five, and in four
of them there is one thing to say. -/
namespace TypeGraph

namespace Identifier

/-- One of `A` to `Z` or `a` to `z`, or an underscore. -/
def IsWordHead (c : Char) : Prop := 'A' ≤ c ∧ c ≤ 'Z' ∨ 'a' ≤ c ∧ c ≤ 'z' ∨ c = '_'

/-- What a word may start with, or one of `0` to `9`. -/
def IsWordPart (c : Char) : Prop := IsWordHead c ∨ '0' ≤ c ∧ c ≤ '9'

/-- The text has the form `[A-Za-z_][A-Za-z0-9_]*`. -/
def IsWord (text : String) : Prop :=
  ∃ head rest, text.toList = head :: rest ∧ IsWordHead head ∧ ∀ c ∈ rest, IsWordPart c

theorem isDigit_iff {c : Char} : c.isDigit = true ↔ '0' ≤ c ∧ c ≤ '9' :=
  Bool.and_eq_true_iff.trans (and_congr decide_eq_true_iff decide_eq_true_iff)

theorem isAlpha_iff {c : Char} :
    c.isAlpha = true ↔ ('A' ≤ c ∧ c ≤ 'Z') ∨ ('a' ≤ c ∧ c ≤ 'z') :=
  Bool.or_eq_true_iff.trans (or_congr isUpper_iff isLower_iff)

theorem isAlphanum_iff {c : Char} : c.isAlphanum = true ↔ c.isAlpha = true ∨ '0' ≤ c ∧ c ≤ '9' :=
  Bool.or_eq_true_iff.trans (or_congr_right isDigit_iff)

theorem isHead_iff {c : Char} : isHead c = true ↔ IsWordHead c := by
  simp only [isHead, Bool.or_eq_true, isAlpha_iff, decide_eq_true_eq, IsWordHead, or_assoc]

theorem isTail_iff {c : Char} : isTail c = true ↔ IsWordPart c := by
  simp only [isTail, Bool.or_eq_true, isAlphanum_iff, isAlpha_iff, decide_eq_true_eq, IsWordPart,
    IsWordHead]
  tauto

theorem isValid_iff {name : String} : isValid name = true ↔ IsWord name := by
  unfold isValid IsWord
  cases name.toList with
  | nil => simp
  | cons head rest => simp [isHead_iff, isTail_iff]

instance : DecidablePred IsWord := fun _ => decidable_of_iff _ isValid_iff

end Identifier

instance : DecidablePred NoSmallLetters := fun _ => List.decidableBAll _ _

/-- How a literal stands among the values of an enum. -/
inductive Standing where
  | repeated
  | reserved
  | malformed
  | smallLetters
  | sound
  deriving DecidableEq, Repr

/-- The standing of a literal behind earlier ones. That it repeats one of them counts before all else,
and how its letters are cased counts last. -/
inductive Stands (earlier : List String) (literal : String) : Standing → Prop where
  | repeated (repeated : literal ∈ earlier) : Stands earlier literal .repeated
  | reserved (new : literal ∉ earlier) (reserved : literal ∈ ["true", "false", "null"]) :
      Stands earlier literal .reserved
  | malformed (new : literal ∉ earlier) (free : literal ∉ ["true", "false", "null"])
      (malformed : ¬Identifier.IsWord literal) : Stands earlier literal .malformed
  | smallLetters (new : literal ∉ earlier) (free : literal ∉ ["true", "false", "null"])
      (word : Identifier.IsWord literal) (small : ¬NoSmallLetters literal) :
      Stands earlier literal .smallLetters
  | sound (new : literal ∉ earlier) (free : literal ∉ ["true", "false", "null"])
      (word : Identifier.IsWord literal) (capitals : NoSmallLetters literal) :
      Stands earlier literal .sound

namespace Standing

/-- What is said of a value, if anything. Where a repeated value has no place of its own, the one of
the enum is shown. -/
def remark? (place : Option SourceLocation) (standing : Standing) (value : EnumValueDecl) :
    Option Diagnostic :=
  match standing with
  | repeated => some ⟨.duplicateEnumValue value.value, value.location <|> place⟩
  | reserved => some ⟨.reservedEnumValue value.value, value.location⟩
  | malformed => some ⟨.invalidEnumValue value.value, value.location⟩
  | smallLetters => some ⟨.enumValueCase, value.location⟩
  | sound => none

variable {place : Option SourceLocation} {standing : Standing} {value : EnumValueDecl}
  {remark : Diagnostic}

/-- Only the casing of letters is a matter of convention. -/
theorem severity_remark? (said : standing.remark? place value = some remark) :
    remark.finding.severity = if standing = .smallLetters then .warning else .error := by
  cases standing <;> cases said <;> rfl

end Standing

namespace Stands

variable {earlier others : List String} {literal : String} {standing other : Standing}

theorem total (earlier : List String) (literal : String) : ∃ standing, Stands earlier literal standing := by
  by_cases repeated : literal ∈ earlier
  · exact ⟨_, .repeated repeated⟩
  by_cases reserved : literal ∈ ["true", "false", "null"]
  · exact ⟨_, .reserved repeated reserved⟩
  by_cases word : Identifier.IsWord literal
  · by_cases capitals : NoSmallLetters literal
    · exact ⟨_, .sound repeated reserved word capitals⟩
    · exact ⟨_, .smallLetters repeated reserved word capitals⟩
  · exact ⟨_, .malformed repeated reserved word⟩

theorem unique (first : Stands earlier literal standing) (second : Stands earlier literal other) :
    standing = other := by
  cases first <;> cases second <;> first | rfl | contradiction

end Stands

/-- Values behind the literals of earlier ones have these standings, one for each value. -/
structure StandInTurn (before : List String) (values : List EnumValueDecl)
    (standings : List Standing) : Prop where
  one : standings.length = values.length
  each : ∀ earlier value later, values = earlier ++ value :: later →
    ∃ standing, standings[earlier.length]? = some standing ∧
      Stands (before ++ earlier.map (·.value)) value.value standing

theorem StandInTurn.cons {before : List String} {value : EnumValueDecl} {rest : List EnumValueDecl}
    {standing : Standing} {standings : List Standing} (here : Stands before value.value standing)
    (later : StandInTurn (before ++ [value.value]) rest standings) :
    StandInTurn before (value :: rest) (standing :: standings) := by
  constructor
  case one => rw [List.length_cons, later.one, List.length_cons]
  case each =>
    intro earlier other behind parts
    cases earlier with
    | nil =>
      cases parts
      exact ⟨standing, rfl, by simpa using here⟩
    | cons first between =>
      cases parts
      obtain ⟨own, listed, stands⟩ := later.each between other behind rfl
      exact ⟨own, by simpa using listed, by simpa using stands⟩

/-- Whether a value is told to repeat another. -/
def Diagnostic.tellsRepeat (diagnostic : Diagnostic) : Bool :=
  match diagnostic.finding with
  | .duplicateEnumValue _ => true
  | _ => false

namespace Validation

theorem isUpperCase_iff_of_isWord {literal : String} (word : Identifier.IsWord literal) :
    Text.isUpperCase literal = true ↔ NoSmallLetters literal :=
  Text.isUpperCase_iff fun _ => Identifier.toNat_lt_of_isValid (Identifier.isValid_iff.mpr word)

variable {place : Option SourceLocation} {before seen : List String} {value : EnumValueDecl}
  {values : List EnumValueDecl} {standing : Standing}

/-- A literal that repeats no earlier one is looked at by itself. -/
theorem enumValue_of_stands (new : value.value ∉ before)
    (stands : Stands before value.value standing) :
    Finding.locate value.location (enumValue value.value) =
      (standing.remark? place value).toList := by
  have reserved_iff : Identifier.isReservedLiteral value.value = true ↔
      value.value ∈ ["true", "false", "null"] := by
    simp [Identifier.isReservedLiteral, Identifier.reservedLiterals]
  cases stands with
  | repeated repeated => exact absurd repeated new
  | reserved _ reserved =>
    simp [enumValue, reserved_iff.mpr reserved, Standing.remark?, Finding.locate]
  | malformed _ free malformed =>
    have invalid : Identifier.isValid value.value = false := by
      simpa [← Identifier.isValid_iff] using malformed
    simp [enumValue, mt reserved_iff.mp free, invalid, Standing.remark?, Finding.locate]
  | smallLetters _ free word small =>
    have valid := Identifier.isValid_iff.mpr word
    have lower : Text.isUpperCase value.value = false := by
      simpa [← isUpperCase_iff_of_isWord word] using small
    simp [enumValue, mt reserved_iff.mp free, valid, lower, Standing.remark?, Finding.locate]
  | sound _ free word capitals =>
    have valid := Identifier.isValid_iff.mpr word
    have upper := (isUpperCase_iff_of_isWord word).mpr capitals
    simp [enumValue, mt reserved_iff.mp free, valid, upper, Standing.remark?, Finding.locate]

/-- The scan puts a literal in front of those seen, and which ones it has seen is all that counts. -/
theorem enumValues_in_turn (place : Option SourceLocation) (values : List EnumValueDecl)
    (same : ∀ literal, literal ∈ seen ↔ literal ∈ before) :
    ∃ standings, StandInTurn before values standings ∧ enumValues place seen values =
      (List.zipWith (Standing.remark? place) standings values).reduceOption := by
  induction values generalizing seen before with
  | nil => exact ⟨[], ⟨rfl, by simp⟩, rfl⟩
  | cons value rest ih =>
    obtain ⟨standing, here⟩ := Stands.total before value.value
    have grown (literal : String) :
        literal ∈ value.value :: seen ↔ literal ∈ before ++ [value.value] := by
      simp [same, or_comm]
    obtain ⟨standings, later, told⟩ := ih grown
    refine ⟨standing :: standings, later.cons here, ?_⟩
    have own : (if seen.contains value.value then
          [⟨.duplicateEnumValue value.value, value.location <|> place⟩]
        else Finding.locate value.location (enumValue value.value)) =
        (standing.remark? place value).toList := by
      by_cases repeated : value.value ∈ before
      · obtain rfl := here.unique (.repeated repeated)
        simp [same, repeated, Standing.remark?]
      · simp only [List.contains_iff_mem, same, repeated, if_false]
        exact enumValue_of_stands repeated here
    rw [enumValues, own, told, List.zipWith_cons_cons]
    cases standing.remark? place value <;> simp

theorem filter_tellsRepeat_enumValue {location : Option SourceLocation} {literal : String} :
    (Finding.locate location (enumValue literal)).filter (·.tellsRepeat) = [] := by
  unfold enumValue
  split_ifs <;> rfl

/-- Of the literals not seen so far each counts once as distinct, and is told as often as it comes up
again. -/
theorem length_repeats_add_card (place : Option SourceLocation) (seen : List String)
    (values : List EnumValueDecl) : ((enumValues place seen values).filter (·.tellsRepeat)).length +
    ((values.map (·.value)).toFinset \ seen.toFinset).card = values.length := by
  induction values generalizing seen with
  | nil => simp [enumValues]
  | cons value rest ih =>
    have later := ih (value.value :: seen)
    rw [enumValues, List.filter_append, List.length_append, List.map_cons, List.toFinset_cons,
      List.length_cons]
    rw [List.toFinset_cons] at later
    by_cases repeated : value.value ∈ seen
    · have old : insert value.value seen.toFinset = seen.toFinset := by simpa using repeated
      have kept : insert value.value (rest.map (·.value)).toFinset \ seen.toFinset =
          (rest.map (·.value)).toFinset \ seen.toFinset :=
        Finset.insert_sdiff_of_mem _ (by simpa using repeated)
      rw [old] at later
      simp only [List.contains_iff_mem, repeated, if_true, kept]
      have told : ([⟨.duplicateEnumValue value.value, value.location <|> place⟩] :
          List Diagnostic).filter (·.tellsRepeat) =
          [⟨.duplicateEnumValue value.value, value.location <|> place⟩] := rfl
      rw [told, List.length_singleton]
      omega
    · have grown : (insert value.value (rest.map (·.value)).toFinset \ seen.toFinset).card =
          ((rest.map (·.value)).toFinset \ insert value.value seen.toFinset).card + 1 := by
        rw [Finset.insert_sdiff_of_notMem _ (by simpa using repeated), Finset.sdiff_insert,
          ← Finset.erase_insert_eq_erase, Finset.card_erase_add_one (Finset.mem_insert_self _ _)]
      simp only [List.contains_iff_mem, repeated, if_false, filter_tellsRepeat_enumValue,
        List.length_nil, grown]
      omega

/-- Every value of an enum has one standing, and in their order what is said of them is what their
standings ask for: at most one thing of each, and a mere warning only where letters are small. Repeated
values are told as often as there are more values than different ones. A value whose casing is looked at
is a word, and there full upper-casing changes nothing exactly where there is no small Latin letter. -/
theorem values_classified_once (decl : EnumDecl) :
    (∃ standings told, StandInTurn [] decl.values standings ∧
      told = (List.zipWith (Standing.remark? decl.location) standings decl.values).reduceOption ∧
      enum decl = Finding.locate decl.location (typeName decl.name ++
        Finding.when decl.values.isEmpty (.noEnumValues decl.name)) ++ told ∧
      (told.filter (·.tellsRepeat)).length + (decl.values.map (·.value)).toFinset.card =
        decl.values.length) ∧
    (∀ earlier literal, ∃! standing, Stands earlier literal standing) ∧
    (∀ standing value remark, Standing.remark? decl.location standing value = some remark →
      remark.finding.severity = if standing = .smallLetters then .warning else .error) ∧
    ∀ literal, Identifier.IsWord literal →
      (Text.isUpperCase literal = true ↔ NoSmallLetters literal) := by
  refine ⟨?_, fun earlier literal => ?_, fun _ _ _ => Standing.severity_remark?,
    fun _ => isUpperCase_iff_of_isWord⟩
  · have unseen (literal : String) :
        literal ∈ ([] : List String) ↔ literal ∈ ([] : List String) := Iff.rfl
    obtain ⟨standings, stand, told⟩ := enumValues_in_turn decl.location decl.values unseen
    refine ⟨standings, _, stand, told, ?_, ?_⟩
    · rw [enum, Finding.locate, Finding.locate, Finding.locate, List.map_append]
    · simpa using length_repeats_add_card decl.location [] decl.values
  · obtain ⟨standing, stands⟩ := Stands.total earlier literal
    exact ⟨standing, stands, fun other others => others.unique stands⟩

/-- Beyond words the casing of letters is more than small Latin letters. -/
example : Text.isUpperCase "été" = false ∧ Text.isUpperCase "É" = true ∧ NoSmallLetters "é" := by
  decide +kernel

/-- Ways to carry goods, with a value of every standing. -/
def carriers : EnumDecl where
  name := "Carrier"
  values := [{ value := "AIR" }, { value := "null" }, { value := "by-sea" }, { value := "Rail" },
    { value := "AIR" }]
  location := some { source := "carriers.yaml", line := some 3 }

/-- `Rail` is new, free and a word, so it comes down to its letters; what repeats `AIR` is shown at the
place of the enum. -/
theorem carriers_classified :
    Identifier.IsWord "Rail" ∧ Text.isUpperCase "Rail" = false ∧
      (∃! standing, Stands ["AIR", "null", "by-sea"] "Rail" standing) ∧
      enum carriers = [⟨.reservedEnumValue "null", none⟩, ⟨.invalidEnumValue "by-sea", none⟩,
        ⟨.enumValueCase, none⟩, ⟨.duplicateEnumValue "AIR", carriers.location⟩] := by
  obtain ⟨-, single, -, casing⟩ := values_classified_once carriers
  have word : Identifier.IsWord "Rail" := by decide +kernel
  have small : ¬NoSmallLetters "Rail" := by decide +kernel
  refine ⟨word, ?_, single _ _, by decide +kernel⟩
  exact Bool.eq_false_iff.mpr (mt (casing "Rail" word).mp small)

end Validation
end TypeGraph
