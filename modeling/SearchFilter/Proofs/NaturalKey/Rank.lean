import Mathlib.Algebra.Order.Ring.Unbundled.Rat
import Mathlib.Data.List.Lex
import Mathlib.Data.String.Basic
import Mathlib.Data.Sum.Order
import SearchFilter.Proofs.NaturalKey.Pair

namespace SearchFilter

namespace Position

variable {p q : Position}

/-- The place of a position on the line with both ends; a position nowhere is put at the lower end. -/
def extended : Position → WithBot (WithTop ℚ)
  | below | nowhere => ⊥
  | «at» q => ((q : WithTop ℚ) : WithBot (WithTop ℚ))
  | above => ((⊤ : WithTop ℚ) : WithBot (WithTop ℚ))

theorem before_eq (placeP : p ≠ nowhere) (placeQ : q ≠ nowhere) :
    p.before q = decide (p.extended < q.extended) := by
  have below_top (r : ℚ) : ((r : WithTop ℚ) : WithBot (WithTop ℚ)) < (⊤ : WithTop ℚ) :=
    WithBot.coe_lt_coe.mpr (WithTop.coe_lt_top r)
  cases p <;> cases q <;> simp_all [before, extended]

theorem coincides_eq (placeP : p ≠ nowhere) (placeQ : q ≠ nowhere) :
    p.coincides q = decide (p.extended = q.extended) := by
  cases p <;> cases q <;> simp_all [coincides, extended, Bool.beq_eq_decide_eq]

end Position

namespace Number

variable {m n : Number}

/-- Where a number lies on the line with both ends. -/
def place (n : Number) : WithBot (WithTop ℚ) :=
  n.position.extended

private theorem position_ne_nowhere (real : m.isNan = false) : m.position ≠ .nowhere := by
  intro nowhere
  simp [isNan, nowhere] at real

private theorem signals_of_real (real : m.isNan = false) : m.signals = false := by
  by_contra signals
  have nan := isNan_of_signals (by simpa using signals)
  simp [real] at nan

theorem less?_eq (realM : m.isNan = false) (realN : n.isNan = false) :
    m.less? n = some (decide (m.place < n.place)) := by
  have before := Position.before_eq (position_ne_nowhere realM) (position_ne_nowhere realN)
  rw [less?, realM, realN, Bool.or_false, Bool.and_false, if_neg Bool.false_ne_true, before]
  rfl

theorem equal?_eq (realM : m.isNan = false) (realN : n.isNan = false) :
    m.equal? n = some (decide (m.place = n.place)) := by
  have coincides := Position.coincides_eq (position_ne_nowhere realM) (position_ne_nowhere realN)
  rw [equal?, signals_of_real realM, signals_of_real realN, if_neg (by decide), coincides]
  rfl

@[simp] theorem isNan_int (k : Int) : (int k).isNan = false := by
  simp [isNan, position]

@[simp] theorem place_int (k : Int) : (int k).place = (((k : ℚ) : WithTop ℚ) : WithBot _) := rfl

end Number

namespace KeyPart

variable {x y : KeyPart}

/-- Whether a part is a number that is none. -/
def isNan : KeyPart → Bool
  | number n => n.isNan
  | text _ => false

/-- The rank of a part: numbers by their places, and texts behind all of them. -/
def rank : KeyPart → WithBot (WithTop ℚ) ⊕ₗ String
  | number n => Sum.inlₗ n.place
  | text s => Sum.inrₗ s

theorem less?_eq (realX : x.isNan = false) (realY : y.isNan = false) :
    x.less? y = some (decide (x.rank < y.rank)) := by
  cases x with
  | number m =>
    cases y with
    | number n =>
      simp [less?, rank, Number.less?_eq realX realY]
    | text t => simp [less?, rank]
  | text s =>
    cases y with
    | number n => simp [less?, rank]
    | text t => simp [less?, rank]

theorem equal?_eq (realX : x.isNan = false) (realY : y.isNan = false) :
    x.equal? y = some (decide (x.rank = y.rank)) := by
  cases x with
  | number m =>
    cases y with
    | number n =>
      have real : m.isNan = false := realX
      simp [equal?, rank, Number.identical, real, Number.equal?_eq realX realY]
    | text t => simp [equal?, rank]
  | text s =>
    cases y with
    | number n => simp [equal?, rank]
    | text t => simp [equal?, rank, BEq.beq]

theorem isNan_of_isPlain (plain : x.isPlain = true) : x.isNan = false := by
  cases x with
  | text s => rfl
  | number n =>
    cases n with
    | int k => exact Number.isNan_int k
    | float | decimal => simp [isPlain] at plain

end KeyPart

namespace NaturalKey

variable {a b : NaturalKey}

/-- The rank of a key: those of its parts, of which the first difference counts. -/
def rank (key : NaturalKey) : List (WithBot (WithTop ℚ) ⊕ₗ String) :=
  key.map KeyPart.rank

@[simp] theorem rank_nil : rank [] = [] := rfl

@[simp] theorem rank_cons (x : KeyPart) (key : NaturalKey) :
    rank (x :: key) = x.rank :: rank key := rfl

/-- A key of which every number has a place on the line. -/
def IsReal (key : NaturalKey) : Prop :=
  ∀ x ∈ key, x.isNan = false

theorem isReal_cons {x : KeyPart} : IsReal (x :: a) ↔ x.isNan = false ∧ IsReal a :=
  List.forall_mem_cons

/-- Two keys are compared by their ranks. -/
theorem less?_eq (realA : IsReal a) (realB : IsReal b) :
    less? a b = some (decide (rank a < rank b)) := by
  induction a generalizing b with
  | nil => cases b <;> simp [less?]
  | cons x as ih =>
    cases b with
    | nil => simp [less?]
    | cons y bs =>
      obtain ⟨realX, realAs⟩ := isReal_cons.mp realA
      obtain ⟨realY, realBs⟩ := isReal_cons.mp realB
      have rest := ih realAs realBs
      by_cases same : x.rank = y.rank
      · simp [less?, KeyPart.equal?_eq realX realY, same, rest]
      · simp [less?, KeyPart.equal?_eq realX realY, KeyPart.less?_eq realX realY, same,
          List.cons_lt_cons_iff]

/-- Equality of keys, part by part; keys of different lengths are not looked into. -/
def equal? (a b : NaturalKey) : Option Bool :=
  if a.length = b.length then equalParts? a b else some false
where
  equalParts? : NaturalKey → NaturalKey → Option Bool
    | x :: as, y :: bs =>
      match x.equal? y with
      | some true => equalParts? as bs
      | verdict => verdict
    | _, _ => some true

private theorem equalParts?_eq (realA : IsReal a) (realB : IsReal b)
    (length : a.length = b.length) :
    equal?.equalParts? a b = some (decide (rank a = rank b)) := by
  induction a generalizing b with
  | nil => cases List.eq_nil_of_length_eq_zero length.symm; simp [equal?.equalParts?]
  | cons x as ih =>
    cases b with
    | nil => simp at length
    | cons y bs =>
      obtain ⟨realX, realAs⟩ := isReal_cons.mp realA
      obtain ⟨realY, realBs⟩ := isReal_cons.mp realB
      have rest := ih realAs realBs (by simpa using length)
      by_cases same : x.rank = y.rank <;>
        simp [equal?.equalParts?, KeyPart.equal?_eq realX realY, same, rest]

theorem equal?_eq (realA : IsReal a) (realB : IsReal b) :
    equal? a b = some (decide (rank a = rank b)) := by
  by_cases length : a.length = b.length
  · rw [equal?, if_pos length, equalParts?_eq realA realB length]
  · have different : rank a ≠ rank b := by
      intro same
      have := congrArg List.length same
      simp only [rank, List.length_map] at this
      exact length this
    simp [equal?, length, different]

end NaturalKey

namespace Value

/-- Whether a value is a number that is none. -/
def isNan : Value → Bool
  | .number n => n.isNan
  | _ => false

end Value

theorem NaturalKey.isReal_ofValue {v : Value} {key : NaturalKey} (made : ofValue v = .ok key)
    (real : v.isNan = false) : IsReal key := by
  by_cases isNumber : ∃ n, v = .number n
  · obtain ⟨n, rfl⟩ := isNumber
    cases made
    intro x present
    rw [List.mem_singleton.mp present]
    exact real
  · have text := ((ofValue_eq_ok_iff (not_exists.mp isNumber)).mp made).2
    exact fun x present => KeyPart.isNan_of_isPlain (isPlain_partsOf text x present)

end SearchFilter
