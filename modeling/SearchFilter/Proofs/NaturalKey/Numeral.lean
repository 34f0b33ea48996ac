import Mathlib.Algebra.Order.Ring.Cast
import Mathlib.Algebra.Order.Ring.Rat
import SearchFilter.Proofs.NaturalKey.Rank

namespace SearchFilter

namespace Text

theorem decimalValue?_of_isDigit {c : Char} (digit : c.isDigit = true) :
    decimalValue? c = some (c.toNat - '0'.toNat) := by
  have bounds : 48 ≤ c.toNat ∧ c.toNat ≤ 57 := by
    simpa [Char.isDigit, UInt32.le_iff_toNat_le] using digit
  have found : (0x30 ≤ c.toNat && c.toNat < 0x30 + 10) = true := by
    simp only [Bool.and_eq_true, decide_eq_true_eq]
    omega
  have zeros : decimalZeros = 0x30 :: decimalZeros.tail := rfl
  rw [decimalValue?, zeros, List.find?_cons, found]
  rfl

theorem isDecimalDigit_of_isDigit {c : Char} (digit : c.isDigit = true) :
    isDecimalDigit c = true := by
  rw [isDecimalDigit, decimalValue?_of_isDigit digit]
  rfl

theorem numeralValue_of_isDigit {digits : List Char} (all : ∀ c ∈ digits, c.isDigit = true) :
    numeralValue digits = Nat.ofDigitChars 10 digits 0 := by
  rw [numeralValue, Nat.ofDigitChars_eq_foldl]
  apply List.foldl_ext
  intro value c present
  rw [decimalValue?_of_isDigit (all c present)]
  rfl

end Text

namespace Calendar

theorem toList_padded (width n : Nat) :
    (padded width n).toList =
      List.replicate (width - (toString n).length) '0' ++ Nat.toDigits 10 n := by
  simp [padded, Nat.toString_eq_repr, Nat.toList_repr]

theorem isDigit_of_mem_padded {width n : Nat} : ∀ c ∈ (padded width n).toList, c.isDigit = true := by
  intro c present
  rw [toList_padded] at present
  rcases List.mem_append.mp present with zero | digit
  · rw [List.eq_of_mem_replicate zero]
    rfl
  · exact Nat.isDigit_of_mem_toDigits (by decide) (by decide) digit

theorem padded_ne_nil {width n : Nat} : (padded width n).toList ≠ [] := by
  simp [toList_padded, Nat.toDigits_ne_nil]

theorem numeralValue_padded (width n : Nat) : Text.numeralValue (padded width n).toList = n := by
  rw [Text.numeralValue_of_isDigit isDigit_of_mem_padded, toList_padded, Nat.ofDigitChars_append,
    Nat.ofDigitChars_replicate_zero, Nat.mul_zero, Nat.ofDigitChars_ten_toDigits]

theorem length_padded_le {width n : Nat} (positive : 0 < width) (fits : n < 10 ^ width) :
    (padded width n).toList.length ≤ width := by
  have short : (Nat.toDigits 10 n).length ≤ width :=
    (Nat.length_toDigits_le_iff (by decide) positive).mpr fits
  have same : (toString n).length = (Nat.toDigits 10 n).length := by
    rw [← String.length_toList, Nat.toString_eq_repr, Nat.toList_repr]
  rw [toList_padded, List.length_append, List.length_replicate, same]
  omega

end Calendar

namespace KeyPart

/-- The part that a numeral gives. -/
def numeral (n : Nat) : KeyPart :=
  .number (.int n)

/-- The part that a single character between two numerals gives. -/
def mark (c : Char) : KeyPart :=
  .text (String.ofList [c])

variable {m n : Nat} {c d : Char}

@[simp] theorem rank_numeral_lt_iff : (numeral m).rank < (numeral n).rank ↔ m < n := by
  simp [numeral, rank]

@[simp] theorem rank_numeral_inj : (numeral m).rank = (numeral n).rank ↔ m = n := by
  simp [numeral, rank]

@[simp] theorem rank_mark_lt_iff : (mark c).rank < (mark d).rank ↔ c < d := by
  rw [mark, mark, rank, rank, Sum.Lex.inr_lt_inr_iff, String.lt_iff_toList_lt]
  simp [List.cons_lt_cons_iff]

@[simp] theorem rank_mark_inj : (mark c).rank = (mark d).rank ↔ c = d := by
  simp [mark, rank]

end KeyPart

namespace NaturalKey

open Text

variable {digits word rest : List Char} {key : NaturalKey}

/-- The key of a text as its characters. -/
def ofChars (text : List Char) : Except ValueFault NaturalKey :=
  partsOf (runs isDecimalDigit text)

theorem ofText_eq (text : String) : ofText text = ofChars text.toList := rfl

@[simp] theorem ofChars_nil : ofChars [] = .ok [] := rfl

theorem ofChars_numeral (nonempty : digits ≠ []) (decimal : ∀ c ∈ digits, isDecimalDigit c = true)
    (short : digits.length ≤ Numeral.maxDigits)
    (ends : ∀ c ∈ rest.head?, isDecimalDigit c = false) (later : ofChars rest = .ok key) :
    ofChars (digits ++ rest) = .ok (.number (.int (numeralValue digits)) :: key) := by
  have first : partOf digits = .ok (.number (.int (numeralValue digits))) := by
    rw [partOf, if_pos (List.all_eq_true.mpr decimal), if_neg (Nat.not_lt.mpr short)]
  have split : runs isDecimalDigit (digits ++ rest) = digits :: runs isDecimalDigit rest :=
    runs_append nonempty decimal fun c next => by simp [ends c next]
  rw [ofChars, split, partsOf, first, Result.ok_bind, ← ofChars, later]
  rfl

theorem ofChars_word (nonempty : word ≠ []) (other : ∀ c ∈ word, isDecimalDigit c = false)
    (letter : ∃ c ∈ word, isDigitMark c = false)
    (ends : ∀ c ∈ rest.head?, isDecimalDigit c = true) (later : ofChars rest = .ok key) :
    ofChars (word ++ rest) = .ok (.text (String.ofList word) :: key) := by
  have first : partOf word = .ok (.text (String.ofList word)) := by
    obtain ⟨c, present, noMark⟩ := letter
    have noDigits : ¬ word.all isDecimalDigit = true := by
      intro all
      have digit := List.all_eq_true.mp all c present
      simp [other c present] at digit
    have noMarks : ¬ word.all isDigitMark = true := by
      intro all
      have mark := List.all_eq_true.mp all c present
      simp [noMark] at mark
    rw [partOf, if_neg noDigits, if_neg noMarks]
  have split : runs isDecimalDigit (word ++ rest) = word :: runs isDecimalDigit rest :=
    runs_append nonempty other fun c next => by simp [ends c next]
  rw [ofChars, split, partsOf, first, Result.ok_bind, ← ofChars, later]
  rfl

/-- A character that stands for itself between numerals. -/
def IsSeparator (c : Char) : Prop :=
  isDecimalDigit c = false ∧ isDigitMark c = false

instance (c : Char) : Decidable (IsSeparator c) :=
  inferInstanceAs (Decidable (_ ∧ _))

/-- A text that does not go on with a digit. -/
def EndsNumeral (text : List Char) : Prop :=
  ∀ c ∈ text.head?, isDecimalDigit c = false

theorem endsNumeral_nil : EndsNumeral [] := by
  simp [EndsNumeral]

theorem endsNumeral_cons {c : Char} (separator : IsSeparator c) : EndsNumeral (c :: rest) := by
  simpa [EndsNumeral] using separator.1

/-- A number with zeros in front is the first part of the key. -/
theorem ofChars_padded {width n : Nat} (positive : 0 < width) (narrow : width ≤ 6)
    (fits : n < 10 ^ width) (ends : EndsNumeral rest) (later : ofChars rest = .ok key) :
    ofChars ((Calendar.padded width n).toList ++ rest) = .ok (.numeral n :: key) := by
  have short : (Calendar.padded width n).toList.length ≤ Numeral.maxDigits := by
    have := Calendar.length_padded_le positive fits
    simp only [Numeral.maxDigits]
    omega
  have made := ofChars_numeral Calendar.padded_ne_nil
    (fun c present => isDecimalDigit_of_isDigit (Calendar.isDigit_of_mem_padded c present)) short
    ends later
  rw [made, Calendar.numeralValue_padded]
  rfl

/-- A separator and a number behind it are the first two parts of the key. -/
theorem ofChars_field {c : Char} {width n : Nat} (separator : IsSeparator c) (positive : 0 < width)
    (narrow : width ≤ 6) (fits : n < 10 ^ width) (ends : EndsNumeral rest)
    (later : ofChars rest = .ok key) :
    ofChars (c :: ((Calendar.padded width n).toList ++ rest)) =
      .ok (.mark c :: .numeral n :: key) := by
  have alone : ∀ d ∈ [c], isDecimalDigit d = false := by simp [separator.1]
  have letter : ∃ d ∈ [c], isDigitMark d = false := by simp [separator.2]
  have opens : ∀ d ∈ ((Calendar.padded width n).toList ++ rest).head?, isDecimalDigit d = true := by
    intro d next
    obtain ⟨first, digits, same⟩ := List.exists_cons_of_ne_nil (@Calendar.padded_ne_nil width n)
    rw [same, List.cons_append, List.head?_cons] at next
    cases next
    exact isDecimalDigit_of_isDigit (Calendar.isDigit_of_mem_padded d (same ▸ List.mem_cons_self))
  rw [← List.singleton_append]
  exact ofChars_word (List.cons_ne_nil c []) alone letter opens
    (ofChars_padded positive narrow fits ends later)

end NaturalKey

end SearchFilter
