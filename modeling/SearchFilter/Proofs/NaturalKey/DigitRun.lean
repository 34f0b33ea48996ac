import Mathlib.Data.List.Induction
import Mathlib.Data.Nat.Digits.Defs
import SearchFilter.Proofs.NaturalKey.Numeral
import SearchFilter.Proofs.NaturalKey.Order

/-!
Texts that are alike but for one run of digits. The runs of a text that is put together are those of its
parts, where no run goes on across a joint, so the keys of such texts are alike but for one number. Main
statement: the texts compare as the numbers that the two runs denote.
-/

namespace SearchFilter

namespace Text

/-- The value of a decimal digit; other characters count as zero. -/
def digitValue (c : Char) : Nat :=
  (decimalValue? c).getD 0

/-- The number that a text of digits denotes: the last digit counts ones, and every digit ten times as
much as the one behind it. -/
def numberOf (s : String) : Nat :=
  Nat.ofDigits 10 (s.toList.reverse.map digitValue)

/-- A text of decimal digits, of any scripts and with any zeros in front, that is not empty. -/
structure IsNumeral (s : String) : Prop where
  nonempty : s.toList ≠ []
  digits : ∀ c ∈ s.toList, isDecimalDigit c = true

theorem numeralValue_eq_numberOf (s : String) : numeralValue s.toList = numberOf s := by
  rw [numberOf, numeralValue]
  induction s.toList using List.reverseRecOn with
  | nil => rfl
  | append_singleton digits c ih =>
    rw [List.foldl_concat, ih, List.reverse_concat, List.map_cons, Nat.ofDigits_cons, digitValue]
    omega

end Text

namespace NaturalKey

open Text

section Split

variable {p : Char → Bool} {left right : List Char}

/-- Where the characters on both sides of a joint are of different kinds, the runs are those of the two
parts. -/
theorem runs_append_of_apart (apart : ∀ c ∈ left.getLast?, ∀ d ∈ right.head?, p c ≠ p d) :
    runs p (left ++ right) = runs p left ++ runs p right := by
  induction left with
  | nil => rfl
  | cons c rest ih =>
    cases rest with
    | nil =>
      cases right with
      | nil => simp [runs]
      | cons d right =>
        have different : p c ≠ p d := apart c rfl d rfl
        rw [List.singleton_append, runs, runs_cons d right]
        simp [runs, different]
    | cons e rest =>
      have later : runs p (e :: rest ++ right) = runs p (e :: rest) ++ runs p right := by
        apply ih
        intro d last
        exact apart d (by simpa using last)
      rw [List.cons_append, runs, later, runs_cons e rest, runs, runs_cons e rest]
      by_cases same : p c = p e <;> simp [same]

end Split

variable {first second : List (List Char)} {a b front rest : NaturalKey}

theorem partsOf_append_eq_ok_iff : partsOf (first ++ second) = .ok a ↔
    ∃ front rest, partsOf first = .ok front ∧ partsOf second = .ok rest ∧ a = front ++ rest := by
  induction first generalizing a with
  | nil => simp [partsOf, eq_comm]
  | cons run others ih =>
    rw [List.cons_append]
    simp only [partsOf, Result.bind_eq_ok_iff, ih]
    constructor
    · rintro ⟨part, made, _, ⟨front, rest, later, last, rfl⟩, done⟩
      cases done
      exact ⟨part :: front, rest, ⟨part, made, front, later, rfl⟩, last, rfl⟩
    · rintro ⟨_, rest, ⟨part, made, front, later, done⟩, last, rfl⟩
      cases done
      exact ⟨part, made, front ++ rest, ⟨front, rest, later, last, rfl⟩, rfl⟩

theorem partOf_numeral {s : String} {part : KeyPart} (numeral : IsNumeral s)
    (made : partOf s.toList = .ok part) : part = .numeral (numberOf s) := by
  rw [partOf, if_pos (List.all_eq_true.mpr numeral.digits)] at made
  split at made
  · cases made
  · cases made
    rw [numeralValue_eq_numberOf]
    rfl

/-- The key of a text with a run of digits in it has the number of the run between the parts of what stands
before it and the parts of what stands behind. -/
theorem ofText_around_numeral {before after s : String} (numeral : IsNumeral s)
    (opens : ∀ c ∈ before.toList.getLast?, isDecimalDigit c = false)
    (ends : EndsNumeral after.toList) (made : ofText (before ++ s ++ after) = .ok a) :
    ofText s = .ok [.numeral (numberOf s)] ∧
      ∃ front rest, ofText before = .ok front ∧ ofText after = .ok rest ∧
        a = front ++ .numeral (numberOf s) :: rest := by
  have single : runs isDecimalDigit s.toList = [s.toList] := by
    have stop : ∀ c ∈ ([] : List Char).head?, isDecimalDigit c ≠ true := nofun
    simpa [runs] using runs_append numeral.nonempty numeral.digits stop
  have split : runs isDecimalDigit (before ++ s ++ after).toList =
      runs isDecimalDigit before.toList ++ ([s.toList] ++ runs isDecimalDigit after.toList) := by
    rw [← single, String.toList_append, String.toList_append, List.append_assoc]
    rw [runs_append_of_apart, runs_append_of_apart]
    · intro c last d next
      rw [numeral.digits c (List.mem_of_getLast? last), ends d next]
      decide
    · intro c last d next
      rw [List.head?_append_of_ne_nil _ numeral.nonempty] at next
      rw [opens c last, numeral.digits d (List.mem_of_head? next)]
      decide
  rw [ofText, split, partsOf_append_eq_ok_iff] at made
  obtain ⟨front, others, first, made, rfl⟩ := made
  rw [partsOf_append_eq_ok_iff] at made
  obtain ⟨middle, rest, made, last, rfl⟩ := made
  have alone : middle = [.numeral (numberOf s)] := by
    obtain ⟨part, kept, made⟩ := Result.bind_eq_ok_iff.mp made
    cases made
    rw [partOf_numeral numeral kept]
  subst alone
  refine ⟨?_, front, rest, first, last, rfl⟩
  rw [ofText, single]
  exact made

/-- The first different part decides between two keys. -/
theorem rank_append_cons_lt_iff {x y : KeyPart} :
    rank (front ++ x :: rest) < rank (front ++ y :: rest) ↔ x.rank < y.rank := by
  induction front with
  | nil => simp [List.cons_lt_cons_iff]
  | cons z front ih => simpa [List.cons_lt_cons_iff] using ih

theorem compares_of_ranks {verdict : Ordering} (realA : IsReal a) (realB : IsReal b)
    (ranks : verdict.Compares (rank a) (rank b)) : Compares a b verdict := by
  have less := less?_eq realA realB
  have greater := less?_eq realB realA
  have equal := equal?_eq realA realB
  cases verdict with
  | lt =>
    have below : rank a < rank b := ranks
    exact .lt (by simp [less, below]) (by simp [equal, below.ne]) (by simp [greater, below.le])
  | eq =>
    have same : rank a = rank b := ranks
    exact .eq (by simp [less, same]) (by simp [equal, same]) (by simp [greater, same])
  | gt =>
    have above : rank b < rank a := ranks
    exact .gt (by simp [less, above.le]) (by simp [equal, above.ne']) (by simp [greater, above])

/-- Two texts that are alike but for one run of digits compare as the numbers of the runs do, whatever
their lengths and the zeros in front of them; and a run of digits alone has the key of its number. -/
theorem compares_digitRuns {before after m n : String} (numeralM : IsNumeral m)
    (numeralN : IsNumeral n) (opens : ∀ c ∈ before.toList.getLast?, isDecimalDigit c = false)
    (ends : EndsNumeral after.toList) (keyM : ofValue (.text (before ++ m ++ after)) = .ok a)
    (keyN : ofValue (.text (before ++ n ++ after)) = .ok b) :
    Compares a b (compare (numberOf m) (numberOf n)) ∧
      ofValue (.text m) = ofValue (.int (numberOf m)) := by
  have realA : IsReal a := isReal_ofValue keyM rfl
  have realB : IsReal b := isReal_ofValue keyN rfl
  obtain ⟨alone, front, rest, first, last, rfl⟩ := ofText_around_numeral numeralM opens ends keyM
  obtain ⟨_, front', rest', first', last', rfl⟩ := ofText_around_numeral numeralN opens ends keyN
  cases first.symm.trans first'
  cases last.symm.trans last'
  refine ⟨compares_of_ranks realA realB ?_, alone⟩
  have numbers : (compare (numberOf m) (numberOf n)).Compares (numberOf m) (numberOf n) :=
    (compare_iff _ _).mp rfl
  revert numbers
  cases compare (numberOf m) (numberOf n) with
  | lt =>
    intro below
    exact rank_append_cons_lt_iff.mpr (KeyPart.rank_numeral_lt_iff.mpr below)
  | eq =>
    intro same
    have same : numberOf m = numberOf n := same
    rw [same]
    exact rfl
  | gt =>
    intro above
    exact rank_append_cons_lt_iff.mpr (KeyPart.rank_numeral_lt_iff.mpr above)

/-- Zeros in front, digits of another script, and runs of digits on either side. -/
theorem compares_digitRuns_scripts :
    ∃ a b, ofValue (.text ("v2." ++ "0009" ++ "-1")) = .ok a ∧
      ofValue (.text ("v2." ++ "१०" ++ "-1")) = .ok b ∧ Compares a b .lt ∧
      ofValue (.text "0009") = ofValue (.int 9) := by
  have keyM : ofValue (.text ("v2." ++ "0009" ++ "-1")) =
      .ok [.text "v", .numeral 2, .text ".", .numeral 9, .text "-", .numeral 1] := rfl
  have keyN : ofValue (.text ("v2." ++ "१०" ++ "-1")) =
      .ok [.text "v", .numeral 2, .text ".", .numeral 10, .text "-", .numeral 1] := rfl
  have opens : ∀ c ∈ "v2.".toList.getLast?, isDecimalDigit c = false := by
    rintro _ ⟨⟩
    decide
  have ends : EndsNumeral "-1".toList := by
    rintro _ ⟨⟩
    decide
  have less : compare (numberOf "0009") (numberOf "१०") = .lt := by decide
  have numeralM : IsNumeral "0009" := ⟨by decide, List.all_eq_true.mp rfl⟩
  have numeralN : IsNumeral "१०" := ⟨by decide, List.all_eq_true.mp rfl⟩
  obtain ⟨order, alone⟩ := compares_digitRuns numeralM numeralN opens ends keyM keyN
  exact ⟨_, _, keyM, keyN, less ▸ order, alone⟩

end NaturalKey

end SearchFilter
