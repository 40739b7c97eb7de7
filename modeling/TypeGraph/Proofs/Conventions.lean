import TypeGraph.Proofs.WellFormed

/-! The conventions that validation warns about, stated of declarations alone. How names are cased
comes down to ranges of Latin letters, since a valid name holds no other ones. -/
namespace TypeGraph

/-- The name has a first character, and it is one from `low` to `high`. -/
def StartsBetween (low high : Char) (name : String) : Prop :=
  ∃ c, name.toList.head? = some c ∧ low ≤ c ∧ c ≤ high

/-- No character of the text is one of `a` to `z`. -/
def NoSmallLetters (text : String) : Prop := ∀ c ∈ text.toList, ¬('a' ≤ c ∧ c ≤ 'z')

namespace Declarations
variable (declarations : Declarations)

/-- An object type of this name has the field, declared or as one of its system fields. -/
def HasField (type name : String) : Prop :=
  ∃ kind decl, .object kind decl ∈ declarations.types ∧ decl.name = type ∧
    (kind.isEntity = true ∧ name ∈ systemFieldNames ∨ name ∈ decl.fields.map (·.name))

/-- An enum of this name has the value. -/
def HasValue (type literal : String) : Prop :=
  ∃ decl, .enum decl ∈ declarations.types ∧ decl.name = type ∧
    literal ∈ decl.values.map (·.value)

/-- The labels belong to a type that there is, and under it to its fields and values. -/
structure LabelsKnown (name : String) (labels : TypeLabels) : Prop where
  type : declarations.KnowsType name
  fields : ∀ field ∈ labels.fields.keys, declarations.HasField name field
  values : ∀ literal ∈ labels.values.keys, declarations.HasValue name literal

structure FieldConventional (field : FieldDecl) : Prop where
  name : StartsBetween 'a' 'z' field.name
  /-- A reference leads to a root entity with a key field. -/
  reference : field.isReference = true →
    ∀ root, declarations.HasRoot field.typeName root → root.keyFieldName ≠ none

structure TypeConventional (decl : TypeDecl) : Prop where
  name : StartsBetween 'A' 'Z' decl.name
  fields : ∀ field ∈ decl.fields, declarations.FieldConventional field
  values : ∀ value ∈ decl.values, NoSmallLetters value.value

/-- Every convention holds: names and values are cased as they should be, references lead to types
with a key field, and labels are given to what there is. -/
structure Conventional : Prop where
  types : ∀ decl ∈ declarations.types, declarations.TypeConventional decl
  labels : ∀ bundle ∈ declarations.bundles, ∀ entry ∈ bundle.types.entries,
    declarations.LabelsKnown entry.1 entry.2

end Declarations

namespace Identifier

variable {name : String}

theorem isUpper_iff {c : Char} : c.isUpper = true ↔ 'A' ≤ c ∧ c ≤ 'Z' := decide_eq_true_iff

theorem isLower_iff {c : Char} : c.isLower = true ↔ 'a' ≤ c ∧ c ≤ 'z' :=
  Bool.and_eq_true_iff.trans (and_congr decide_eq_true_iff decide_eq_true_iff)

theorem startsUpper_iff : startsUpper name = true ↔ StartsBetween 'A' 'Z' name := by
  simp only [startsUpper, StartsBetween, Option.any_eq_true, isUpper_iff]

theorem startsLower_iff : startsLower name = true ↔ StartsBetween 'a' 'z' name := by
  simp only [startsLower, StartsBetween, Option.any_eq_true, isLower_iff]

theorem toNat_lt_of_isTail {c : Char} (tail : isTail c = true) : c.toNat < 0x80 := by
  have below {last : Char} (within : c ≤ last) (ascii : last.toNat < 0x80) : c.toNat < 0x80 :=
    Nat.lt_of_le_of_lt (UInt32.le_iff_toNat_le.mp within) ascii
  rcases Bool.or_eq_true_iff.mp tail with alphanum | underscore
  · rcases Bool.or_eq_true_iff.mp alphanum with alpha | digit
    · rcases Bool.or_eq_true_iff.mp alpha with upper | lower
      · exact below (isUpper_iff.mp upper).2 (by decide)
      · exact below (isLower_iff.mp lower).2 (by decide)
    · have nine : c ≤ '9' := of_decide_eq_true (Bool.and_eq_true_iff.mp digit).2
      exact below nine (by decide)
  · cases of_decide_eq_true underscore
    decide

theorem isTail_of_isHead {c : Char} (head : isHead c = true) : isTail c = true := by
  refine Bool.or_eq_true_iff.mpr ((Bool.or_eq_true_iff.mp head).imp_left fun alpha => ?_)
  exact Bool.or_eq_true_iff.mpr (.inl alpha)

/-- The first character of a valid name might stand at any place. -/
theorem isTail_of_isValid (valid : isValid name = true) {c : Char} (member : c ∈ name.toList) :
    isTail c = true := by
  unfold isValid at valid
  split at valid
  · cases valid
  · next first rest parts =>
    obtain ⟨head, tail⟩ := Bool.and_eq_true_iff.mp valid
    rw [parts] at member
    rcases List.mem_cons.mp member with rfl | later
    · exact isTail_of_isHead head
    · exact List.all_eq_true.mp tail c later

/-- Every character of a valid name is ASCII. -/
theorem toNat_lt_of_isValid (valid : isValid name = true) {c : Char} (member : c ∈ name.toList) :
    c.toNat < 0x80 :=
  toNat_lt_of_isTail (isTail_of_isValid valid member)

end Identifier

namespace Text

/-- Beside the small Latin letters, what upper-casing changes is beyond ASCII. -/
theorem contains_cased_iff {c : Char} (ascii : c.toNat < 0x80) :
    cased.contains c = true ↔ 'a' ≤ c ∧ c ≤ 'z' := by
  have beyond : cased.tail.all (0x80 ≤ ·.first) = true := by decide +kernel
  have others : cased.tail.any (·.contains c.toNat) = false := by
    refine List.any_eq_false.mpr fun range member within => ?_
    have low := List.all_eq_true.mp beyond range member
    simp only [CharRange.contains, Bool.and_eq_true, decide_eq_true_eq] at low within
    omega
  have letters : cased.contains c = (CharRange.contains ⟨0x61, 0x7a, 1⟩ c.toNat ||
      cased.tail.any (·.contains c.toNat)) := rfl
  rw [letters, others, Bool.or_false]
  simp [CharRange.contains, Nat.mod_one, Char.le_def, UInt32.le_iff_toNat_le]

theorem isUpperCase_iff {text : String} (ascii : ∀ c ∈ text.toList, c.toNat < 0x80) :
    isUpperCase text = true ↔ NoSmallLetters text := by
  simp only [isUpperCase, List.all_eq_true, Bool.not_eq_true', NoSmallLetters]
  refine forall₂_congr fun c member => ?_
  rw [← contains_cased_iff (ascii c member), Bool.not_eq_true]

end Text
end TypeGraph
