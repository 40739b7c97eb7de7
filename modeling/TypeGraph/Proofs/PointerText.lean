import TypeGraph.Pointer
import TypeGraph.Text.Split

/-! Reading pointers. A text is cut at its slashes and the escapes of every part are undone, slashes
before tildes; what was written is read back, so pointers with the same text are the same. -/
namespace TypeGraph

namespace Text

variable {separator : Char} {part rest first : List Char} {others : List (List Char)}

/-- What has no separator in it stays with the first part behind it. -/
theorem cut_append (absent : separator ∉ part) (behind : cut separator rest = first :: others) :
    cut separator (part ++ rest) = (part ++ first) :: others := by
  induction part with
  | nil => exact behind
  | cons c part ih =>
    obtain ⟨apart, absent⟩ := not_or.mp (mt List.mem_cons.mpr absent)
    simp [cut, Ne.symm apart, ih absent]

/-- Parts with a separator ahead of each are told apart, behind an empty one. -/
theorem cut_flatMap {parts : List (List Char)} (absent : ∀ part ∈ parts, separator ∉ part) :
    cut separator (parts.flatMap (separator :: ·)) = [] :: parts := by
  induction parts with
  | nil => rfl
  | cons part parts ih =>
    have later := ih fun other member => absent other (List.mem_cons_of_mem part member)
    have here := cut_append (absent part List.mem_cons_self) later
    simpa [cut] using here

end Text

namespace Pointer

variable {key : List Char}

/-- Every tilde is followed by the mark of the character that it stands for. -/
def isEscaped : List Char → Bool
  | [] => true
  | c :: rest => (c != '~' || rest.head? == some '0' || rest.head? == some '1') && isEscaped rest

/-- Put a character back for a tilde with its mark, wherever they stand. -/
def undo (mark char : Char) : List Char → List Char
  | '~' :: next :: rest =>
    if next = mark then char :: undo mark char rest else '~' :: undo mark char (next :: rest)
  | c :: rest => c :: undo mark char rest
  | [] => []

/-- The key that was escaped: slashes are put back first, so that no tilde put back is taken for the
beginning of one. -/
def unescape (token : List Char) : String := String.ofList (undo '0' '~' (undo '1' '/' token))

/-- The pointer of a text: empty, or keys with a slash before each. -/
def ofText? (text : String) : Option Pointer :=
  match Text.cut '/' text.toList with
  | [] :: tokens => if tokens.all isEscaped then some (tokens.map unescape) else none
  | _ => none

/-- What is written for a character of a key. -/
def escapeChar (c : Char) : List Char :=
  if c = '~' then ['~', '0']
  else if c = '/' then ['~', '1']
  else [c]

/-- The replacements do not disturb each other: each character of a key is escaped for itself. -/
theorem toList_escape (key : String) : (escape key).toList = key.toList.flatMap escapeChar := by
  simp only [escape, replace, String.toList_ofList, List.flatMap_assoc]
  refine congrArg (key.toList.flatMap ·) (funext fun c => ?_)
  by_cases tilde : c = '~'
  · simp [escapeChar, tilde]
  · simp [escapeChar, tilde]

theorem undo_cons {mark char c : Char} {rest : List Char} (plain : c ≠ '~') :
    undo mark char (c :: rest) = c :: undo mark char rest := by
  rw [undo]
  exact fun _ _ same _ => plain same

/-- A character is escaped as one of the two special ones, or stands for itself. -/
theorem escapeChar_cases (c : Char) :
    c = '~' ∧ escapeChar c = ['~', '0'] ∨ c = '/' ∧ escapeChar c = ['~', '1'] ∨
      c ≠ '~' ∧ c ≠ '/' ∧ escapeChar c = [c] := by
  by_cases tilde : c = '~'
  · exact .inl ⟨tilde, by simp [escapeChar, tilde]⟩
  · by_cases slash : c = '/'
    · exact .inr (.inl ⟨slash, by simp [escapeChar, slash]⟩)
    · exact .inr (.inr ⟨tilde, slash, by simp [escapeChar, tilde, slash]⟩)

theorem slash_not_mem_escape : '/' ∉ key.flatMap escapeChar := by
  intro member
  obtain ⟨c, _, within⟩ := List.mem_flatMap.mp member
  rcases escapeChar_cases c with ⟨rfl, escaped⟩ | ⟨rfl, escaped⟩ | ⟨_, slash, escaped⟩
  · simp [escaped] at within
  · simp [escaped] at within
  · rw [escaped, List.mem_singleton] at within
    exact slash within.symm

theorem isEscaped_escape : isEscaped (key.flatMap escapeChar) = true := by
  induction key with
  | nil => rfl
  | cons c rest ih =>
    rw [List.flatMap_cons]
    rcases escapeChar_cases c with ⟨_, escaped⟩ | ⟨_, escaped⟩ | ⟨tilde, _, escaped⟩
    · simpa [escaped, isEscaped] using ih
    · simpa [escaped, isEscaped] using ih
    · simpa [escaped, isEscaped, tilde] using ih

/-- With the slashes back, only tildes are still escaped. -/
theorem undo_slashes : undo '1' '/' (key.flatMap escapeChar) =
    key.flatMap fun c => if c = '~' then ['~', '0'] else [c] := by
  induction key with
  | nil => rfl
  | cons c rest ih =>
    rw [List.flatMap_cons, List.flatMap_cons]
    rcases escapeChar_cases c with ⟨rfl, escaped⟩ | ⟨rfl, escaped⟩ | ⟨tilde, _, escaped⟩
    · simp [escaped, undo, undo_cons (show '0' ≠ '~' by decide), ih]
    · simp [escaped, undo, ih]
    · simp [escaped, undo_cons tilde, tilde, ih]

theorem undo_tildes :
    undo '0' '~' (key.flatMap fun c => if c = '~' then ['~', '0'] else [c]) = key := by
  induction key with
  | nil => rfl
  | cons c rest ih =>
    rw [List.flatMap_cons]
    by_cases tilde : c = '~'
    · simp [tilde, undo, ih]
    · simp [tilde, undo_cons tilde, ih]

theorem unescape_escape (key : String) : unescape (key.toList.flatMap escapeChar) = key := by
  rw [unescape, undo_slashes, undo_tildes, String.ofList_toList]

/-- What is written for a pointer is read back as that pointer. -/
theorem ofText?_text (pointer : Pointer) : ofText? pointer.text = some pointer := by
  have written : pointer.text.toList =
      (pointer.map fun key => key.toList.flatMap escapeChar).flatMap ('/' :: ·) := by
    simp [text, toList_escape, String.toList_join, List.flatMap_map]
  have parts : Text.cut '/' pointer.text.toList =
      [] :: pointer.map fun key => key.toList.flatMap escapeChar := by
    rw [written]
    exact Text.cut_flatMap (List.forall_mem_map.mpr fun _ _ => slash_not_mem_escape)
  simp [ofText?, parts, isEscaped_escape, unescape_escape, Function.comp_def]

theorem text_injective : Function.Injective text := by
  intro first second same
  exact Option.some.inj ((ofText?_text first).symm.trans (same ▸ ofText?_text second))

/-- The position that a key stands for in a list: digits, and a zero at their head only alone. -/
def index? (key : String) : Option Nat :=
  if key.toList = ['0'] ∨
      key.toList ≠ [] ∧ key.toList.head? ≠ some '0' ∧ key.toList.all Char.isDigit = true then
    some (Nat.ofDigitChars 10 key.toList 0)
  else none

theorem head?_toDigits {n : Nat} (positive : 0 < n) : (Nat.toDigits 10 n).head? ≠ some '0' := by
  induction n using Nat.strongRecOn with
  | _ n ih =>
    rw [Nat.toDigits_eq_if (by decide)]
    split
    · next single =>
      have digit : ∀ n < 10, 0 < n → Nat.digitChar n ≠ '0' := by decide
      simpa using digit n single positive
    · next several =>
      have rest := ih (n / 10) (Nat.div_lt_self positive (by decide)) (by omega)
      rw [List.head?_append, ne_eq, Option.or_eq_some_iff]
      rintro (leading | ⟨empty, _⟩)
      · exact rest leading
      · exact Nat.toDigits_ne_nil (List.head?_eq_none_iff.mp empty)

theorem index?_repr (n : Nat) : index? n.repr = some n := by
  have digits : n.repr.toList = Nat.toDigits 10 n := by
    rw [Nat.repr_eq_ofList_toDigits, String.toList_ofList]
  have numeral : Nat.toDigits 10 n = ['0'] ∨ Nat.toDigits 10 n ≠ [] ∧
      (Nat.toDigits 10 n).head? ≠ some '0' ∧ (Nat.toDigits 10 n).all Char.isDigit = true := by
    rcases Nat.eq_zero_or_pos n with rfl | positive
    · exact .inl rfl
    · refine .inr ⟨Nat.toDigits_ne_nil, head?_toDigits positive, List.all_eq_true.mpr ?_⟩
      intro c member
      exact Nat.isDigit_of_mem_toDigits (b := 10) (by decide) (by decide) member
  rw [index?, digits, if_pos numeral, Nat.ofDigitChars_ten_toDigits]

end Pointer
end TypeGraph
