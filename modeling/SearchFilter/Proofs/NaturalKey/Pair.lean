import SearchFilter.Proofs.NaturalKey.Stretch
import SearchFilter.Proofs.Result

/-!
When two values can be put in natural order. Each needs a key, which a text has unless a run of its
digits is too long or a run of its other characters consists of digit marks alone; and the numbers
that both begin with, if they do, must be comparable.
-/

namespace SearchFilter

open Text

/-- A text all of whose runs are parts of a key: no numeral is too long, and no word consists of digit
marks alone. -/
structure Text.Keyable (text : List Char) : Prop where
  numerals : ∀ run, IsStretch isDecimalDigit true text run → run.length ≤ Numeral.maxDigits
  words : ∀ run, IsStretch isDecimalDigit false text run → ∃ c ∈ run, isDigitMark c = false

namespace NaturalKey

variable {run text : List Char} {runs : List (List Char)} {key : NaturalKey}

private theorem all_decimal_iff {kind : Bool} (stretch : IsStretch isDecimalDigit kind text run) :
    run.all isDecimalDigit = kind := by
  obtain ⟨_, _, _, nonempty, uniform, _, _⟩ := stretch
  obtain ⟨c, rest, rfl⟩ := List.exists_cons_of_ne_nil nonempty
  cases kind with
  | true => exact List.all_eq_true.mpr uniform
  | false => simp [uniform c List.mem_cons_self]

private theorem partOf_numeral_iff (numeral : run.all isDecimalDigit = true) :
    (∃ part, partOf run = .ok part) ↔ run.length ≤ Numeral.maxDigits := by
  by_cases long : Numeral.maxDigits < run.length
  · simp [partOf, numeral, long]
  · simp [partOf, numeral, long, Nat.le_of_not_lt long]

private theorem partOf_word_iff (word : run.all isDecimalDigit = false) :
    (∃ part, partOf run = .ok part) ↔ ∃ c ∈ run, isDigitMark c = false := by
  cases marks : run.all isDigitMark with
  | true =>
    have noOther : ¬ ∃ c ∈ run, isDigitMark c = false := by
      rintro ⟨c, present, other⟩
      simp [List.all_eq_true.mp marks c present] at other
    simp [partOf, word, marks, noOther]
  | false =>
    have other : ∃ c ∈ run, isDigitMark c = false := by simpa using marks
    simp [partOf, word, marks, other]

theorem partsOf_isOk_iff :
    (∃ key, partsOf runs = .ok key) ↔ ∀ run ∈ runs, ∃ part, partOf run = .ok part := by
  induction runs with
  | nil => simp [partsOf]
  | cons run rest ih =>
    simp only [partsOf, Result.bind_eq_ok_iff, List.forall_mem_cons, ← ih]
    constructor
    · rintro ⟨key, part, first, parts, others, _⟩
      exact ⟨⟨part, first⟩, parts, others⟩
    · rintro ⟨⟨part, first⟩, parts, others⟩
      exact ⟨part :: parts, part, first, parts, others, rfl⟩

/-- A text has a key exactly if each of its runs is a part of one. -/
theorem ofText_isOk_iff (text : String) :
    (∃ key, ofText text = .ok key) ↔ Keyable text.toList := by
  rw [ofText, partsOf_isOk_iff]
  constructor
  · intro parts
    refine ⟨fun run stretch => ?_, fun run stretch => ?_⟩
    · exact (partOf_numeral_iff (all_decimal_iff stretch)).mp
        (parts run (mem_runs_of_isStretch stretch))
    · exact (partOf_word_iff (all_decimal_iff stretch)).mp
        (parts run (mem_runs_of_isStretch stretch))
  · intro keyable run present
    obtain ⟨kind, stretch⟩ := isStretch_of_mem_runs present
    cases kind with
    | true => exact (partOf_numeral_iff (all_decimal_iff stretch)).mpr (keyable.numerals run stretch)
    | false => exact (partOf_word_iff (all_decimal_iff stretch)).mpr (keyable.words run stretch)

end NaturalKey

/-- Two numbers that decimal arithmetic refuses to compare: one of them is decimal, one of them is no
number, and they are not one object, which is not compared with itself. -/
def Number.conflicts (m n : Number) : Bool :=
  (m.isDecimal || n.isDecimal) && (m.isNan || n.isNan) && !m.identical n

namespace Number

variable {m n : Number}

theorem isNan_of_signals (signals : m.signals = true) :
    m.isDecimal = true ∧ m.isNan = true := by
  cases m with
  | int | float => simp [Number.signals] at signals
  | decimal d =>
    cases d with
    | nan => simp [isDecimal, isNan, position]
    | finite | infinity => simp [Number.signals] at signals

private theorem conflicts_of_signals (signals : (m.signals || n.signals) = true)
    (apart : m.identical n = false) : m.conflicts n = true := by
  rcases Bool.or_eq_true_iff.mp signals with left | right
  · simp [conflicts, isNan_of_signals left, apart]
  · simp [conflicts, isNan_of_signals right, apart]

theorem not_conflicts_of_identical (same : m.identical n = true) : m.conflicts n = false := by
  simp [conflicts, same]

theorem conflicts_comm : m.conflicts n = n.conflicts m := by
  have turned : m.identical n = n.identical m := by
    rw [Bool.eq_iff_iff, identical, identical, Bool.and_eq_true, Bool.and_eq_true, beq_iff_eq, beq_iff_eq]
    constructor <;> rintro ⟨nan, rfl⟩ <;> exact ⟨nan, rfl⟩
  rw [conflicts, conflicts, Bool.or_comm, Bool.or_comm m.isNan, turned]

private theorem not_conflicts_of_coincides (same : m.position.coincides n.position = true) :
    m.conflicts n = false := by
  have numbers : m.isNan = false ∧ n.isNan = false := by
    simp only [isNan]
    cases first : m.position <;> cases second : n.position <;>
      simp_all [Position.coincides]
  simp [conflicts, numbers]

theorem less?_isSome_iff (apart : m.identical n = false) :
    (m.less? n).isSome = true ↔ m.conflicts n = false := by
  rw [conflicts, apart, Bool.not_false, Bool.and_true, less?]
  split
  · next refused => simp [refused]
  · next ordered => simpa using ordered

end Number

namespace KeyPart

/-- The number of a part that is one. -/
def number? : KeyPart → Option Number
  | number n => some n
  | text _ => none

/-- A part as texts have them: a run of characters, or an integer. -/
def isPlain : KeyPart → Bool
  | text _ | number (.int _) => true
  | number _ => false

end KeyPart

namespace NaturalKey

variable {a b as bs : NaturalKey} {x y : KeyPart}

/-- Two keys whose continuations can be ordered can be ordered themselves unless both begin with
numbers that conflict. -/
theorem less?_cons_isSome_iff (rest : (less? as bs).isSome = true) :
    (less? (x :: as) (y :: bs)).isSome = true ↔
      ∀ m ∈ x.number?, ∀ n ∈ y.number?, m.conflicts n = false := by
  cases x with
  | text s =>
    cases y with
    | text t => cases same : s == t <;> simp [less?, KeyPart.equal?, KeyPart.less?, same,
        KeyPart.number?, rest]
    | number n => simp [less?, KeyPart.equal?, KeyPart.less?, KeyPart.number?]
  | number m =>
    cases y with
    | text t => simp [less?, KeyPart.equal?, KeyPart.less?, KeyPart.number?]
    | number n =>
      simp only [less?, KeyPart.equal?, KeyPart.less?, KeyPart.number?, Option.mem_def,
        Option.some.injEq, forall_eq']
      cases object : m.identical n with
      | true => simpa [Number.not_conflicts_of_identical object] using rest
      | false =>
        cases signals : m.signals || n.signals with
        | true => simp [Number.equal?, signals, Number.conflicts_of_signals signals object]
        | false =>
          cases same : m.position.coincides n.position with
          | true =>
            simp [Number.equal?, signals, same, rest, Number.not_conflicts_of_coincides same]
          | false => simp [Number.equal?, signals, same, Number.less?_isSome_iff object]

private theorem not_conflicts_of_plain (plainX : x.isPlain = true) (plainY : y.isPlain = true) :
    ∀ m ∈ x.number?, ∀ n ∈ y.number?, m.conflicts n = false := by
  intro m first n second
  obtain ⟨k, rfl⟩ : ∃ k, x = .number (.int k) := by
    cases x with
    | text => simp [KeyPart.number?] at first
    | number m => cases m <;> simp [KeyPart.isPlain] at plainX ⊢
  obtain ⟨l, rfl⟩ : ∃ l, y = .number (.int l) := by
    cases y with
    | text => simp [KeyPart.number?] at second
    | number m => cases m <;> simp [KeyPart.isPlain] at plainY ⊢
  cases first
  cases second
  simp [Number.conflicts, Number.isDecimal]

theorem less?_isSome_of_plain (plainA : ∀ x ∈ a, x.isPlain) (plainB : ∀ y ∈ b, y.isPlain) :
    (less? a b).isSome = true := by
  induction a generalizing b with
  | nil => cases b <;> simp [less?]
  | cons x as ih =>
    cases b with
    | nil => simp [less?]
    | cons y bs =>
      have rest := ih (fun z present => plainA z (List.mem_cons_of_mem x present))
        (fun z present => plainB z (List.mem_cons_of_mem y present))
      rw [less?_cons_isSome_iff rest]
      exact not_conflicts_of_plain (plainA x List.mem_cons_self) (plainB y List.mem_cons_self)

/-- The number that a key begins with. -/
def number? (key : NaturalKey) : Option Number :=
  key.head?.bind KeyPart.number?

theorem less?_isSome_iff (plainA : ∀ x ∈ a.tail, x.isPlain) (plainB : ∀ y ∈ b.tail, y.isPlain) :
    (less? a b).isSome = true ↔ ∀ m ∈ number? a, ∀ n ∈ number? b, m.conflicts n = false := by
  cases a with
  | nil => cases b <;> simp [less?, number?]
  | cons x as =>
    cases b with
    | nil => simp [less?, number?]
    | cons y bs => exact less?_cons_isSome_iff (less?_isSome_of_plain plainA plainB)

end NaturalKey

namespace Sorting

theorem sort?_pair {α : Type} (less? : α → α → Option Bool) (x y : α) :
    sort? less? [x, y] = (less? y x).map fun swap => if swap then [y, x] else [x, y] := by
  cases compared : less? y x with
  | none => simp [sort?, firstRun, compared]
  | some swap =>
    cases swap <;> simp [sort?, firstRun, ascendingRun, descendingRun, compared]

end Sorting

/-- The numeral that a text opens with. -/
def Text.openingNumeral? (text : List Char) : Option Number :=
  let digits := text.takeWhile isDecimalDigit
  if digits.isEmpty then none else some (.int (numeralValue digits))

namespace Value

/-- A value that has a natural key: a number, or a value that can be written out as a text that has
one. -/
def HasKey : Value → Prop
  | .number _ => True
  | v => v.isWritable = true ∧ Keyable v.plainText.toList

/-- The number that a value begins with: itself, or the numeral that opens its text. -/
def leadingNumber? : Value → Option Number
  | .number n => some n
  | v => openingNumeral? v.plainText.toList

/-- Two values do not begin with numbers that conflict. -/
def Comparable (v w : Value) : Prop :=
  ∀ m ∈ v.leadingNumber?, ∀ n ∈ w.leadingNumber?, m.conflicts n = false

theorem Comparable.symm {v w : Value} (comparable : v.Comparable w) : w.Comparable v := by
  intro m first n second
  rw [Number.conflicts_comm]
  exact comparable n second m first

end Value

namespace NaturalKey

variable {key : NaturalKey}

private theorem isPlain_partOf {run : List Char} {part : KeyPart} (made : partOf run = .ok part) :
    part.isPlain = true := by
  unfold partOf at made
  split at made
  · split at made <;> cases made
    rfl
  · split at made <;> cases made
    rfl

theorem isPlain_partsOf {runs : List (List Char)} (made : partsOf runs = .ok key) :
    ∀ part ∈ key, part.isPlain = true := by
  induction runs generalizing key with
  | nil => cases made; simp
  | cons run rest ih =>
    obtain ⟨part, first, made⟩ := Result.bind_eq_ok_iff.mp made
    obtain ⟨parts, others, made⟩ := Result.bind_eq_ok_iff.mp made
    cases made
    intro other present
    rcases List.mem_cons.mp present with rfl | later
    · exact isPlain_partOf first
    · exact ih others other later

private theorem number?_ofText {text : String} (made : ofText text = .ok key) :
    number? key = openingNumeral? text.toList := by
  unfold ofText at made
  cases chars : text.toList with
  | nil =>
    rw [chars] at made
    cases made
    rfl
  | cons c rest =>
    rw [chars, runs_cons] at made
    obtain ⟨part, first, made⟩ := Result.bind_eq_ok_iff.mp made
    obtain ⟨parts, _, made⟩ := Result.bind_eq_ok_iff.mp made
    cases made
    cases digit : isDecimalDigit c with
    | true =>
      have kind : (isDecimalDigit · == true) = isDecimalDigit := by simp
      have numeral : (c :: rest.takeWhile isDecimalDigit).all isDecimalDigit = true := by
        simp [digit]
      rw [digit, kind, partOf, if_pos numeral] at first
      split at first <;> cases first
      simp [number?, KeyPart.number?, openingNumeral?, digit]
    | false =>
      have word (run : List Char) : (c :: run).all isDecimalDigit = false := by simp [digit]
      rw [partOf, word, if_neg Bool.false_ne_true] at first
      split at first <;> cases first
      simp [number?, KeyPart.number?, openingNumeral?, digit]

theorem ofValue_eq_ok_iff {v : Value} (noNumber : ∀ n, v ≠ .number n) :
    ofValue v = .ok key ↔ v.isWritable = true ∧ ofText v.plainText = .ok key := by
  rw [ofValue.eq_2 v noNumber]
  cases v.isWritable <;> simp

theorem number?_ofValue {v : Value} (made : ofValue v = .ok key) :
    number? key = v.leadingNumber? := by
  by_cases isNumber : ∃ n, v = .number n
  · obtain ⟨n, rfl⟩ := isNumber
    cases made
    rfl
  · have noNumber : ∀ n, v ≠ .number n := not_exists.mp isNumber
    rw [number?_ofText ((ofValue_eq_ok_iff noNumber).mp made).2, Value.leadingNumber?.eq_2 v noNumber]

private theorem isPlain_tail_ofValue {v : Value} (made : ofValue v = .ok key) :
    ∀ part ∈ key.tail, part.isPlain = true := by
  by_cases isNumber : ∃ n, v = .number n
  · obtain ⟨n, rfl⟩ := isNumber
    cases made
    simp
  · have text := ((ofValue_eq_ok_iff (not_exists.mp isNumber)).mp made).2
    exact fun part later => isPlain_partsOf text part (List.mem_of_mem_tail later)

theorem ofValue_isOk_iff {v : Value} : (∃ key, ofValue v = .ok key) ↔ v.HasKey := by
  by_cases isNumber : ∃ n, v = .number n
  · obtain ⟨n, rfl⟩ := isNumber
    exact ⟨fun _ => trivial, fun _ => ⟨_, rfl⟩⟩
  · have noNumber : ∀ n, v ≠ .number n := not_exists.mp isNumber
    simp only [ofValue_eq_ok_iff noNumber, exists_and_left, ofText_isOk_iff,
      Value.HasKey.eq_2 v noNumber]

private theorem less?_isSome_of_values {v w : Value} {a b : NaturalKey} (first : ofValue v = .ok a)
    (second : ofValue w = .ok b) : (less? a b).isSome = true ↔ v.Comparable w := by
  rw [less?_isSome_iff (isPlain_tail_ofValue first) (isPlain_tail_ofValue second),
    number?_ofValue first, number?_ofValue second, Value.Comparable]

theorem sortValues_pair {low high : Value} {sorted : List Value}
    (made : sortValues [low, high] = .ok sorted) :
    sorted = [low, high] ∨ sorted = [high, low] := by
  unfold sortValues at made
  split at made
  · cases made
  · next keyed keys =>
    obtain ⟨a, _, keys⟩ := Result.bind_eq_ok_iff.mp keys
    obtain ⟨rest, keysRest, keys⟩ := Result.bind_eq_ok_iff.mp keys
    obtain ⟨b, _, keysRest⟩ := Result.bind_eq_ok_iff.mp keysRest
    cases keysRest
    cases keys
    rw [Sorting.sort?_pair] at made
    cases compared : less? b a with
    | none => simp [compared] at made
    | some swap =>
      cases swap <;> simp only [compared, Option.map_some] at made <;> cases made
      · exact .inl rfl
      · exact .inr rfl

/-- Two values can be put in order exactly if both have keys and do not begin with numbers that
conflict. -/
theorem sortValues_pair_isOk_iff {low high : Value} :
    (∃ sorted, sortValues [low, high] = .ok sorted) ↔
      low.HasKey ∧ high.HasKey ∧ low.Comparable high := by
  have turned : low.Comparable high ↔ high.Comparable low := ⟨.symm, .symm⟩
  simp only [← ofValue_isOk_iff, turned]
  cases first : ofValue low with
  | error fault => simp [sortValues, ofValues, first]
  | ok a =>
    cases second : ofValue high with
    | error fault => simp [sortValues, ofValues, first, second]
    | ok b =>
      have keys : ofValues [low, high] = .ok [(a, low), (b, high)] := by
        simp [ofValues, first, second]
      rw [← less?_isSome_of_values second first]
      cases compared : less? b a <;>
        simp [sortValues, keys, Sorting.sort?_pair, compared]

end NaturalKey

end SearchFilter
