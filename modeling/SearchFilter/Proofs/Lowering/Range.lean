import SearchFilter.Proofs.Lowering.Piece
import SearchFilter.Proofs.NaturalKey.Calendar
import SearchFilter.Proofs.NaturalKey.Order

/-!
The range between two values. Main statements: the two values can be given in either order exactly if
their natural keys differ, and the lower bound is the lesser value, where the two are numbers, dates
or moments, unless they are moments whose clocks do not show which of them is earlier.
-/

namespace SearchFilter

open NaturalKey

namespace Leaf

/-- The test of a field against the open interval between two bounds. -/
def between (field low high : Value) : Leaf :=
  .range field [(.gt, low), (.lt, high)]

theorem between_inj {field low high low' high' : Value} :
    between field low high = between field low' high' ↔ low = low' ∧ high = high' := by
  simp [between]

/-- The lower bound is the value that does not rank above the other; of equal ones it is the
first. -/
theorem within_eq {field : String} {v w : Value} (sortableV : v.Sortable) (sortableW : w.Sortable) :
    within (.text field) (.tuple [v, w]) =
      .ok (if rank w.naturalKey < rank v.naturalKey then between (.text field) w v
        else between (.text field) v w) := by
  have sorted := sortValues_pair_eq sortableV sortableW
  by_cases below : rank w.naturalKey < rank v.naturalKey <;>
    simp [within, Value.items?, sorted, below, keyed, Value.isKey, between]

end Leaf

namespace Lowering

variable {v w : Value}

theorem result_between (sortableV : v.Sortable) (sortableW : w.Sortable) (warnings : Bool)
    (conjunction : Conjunction) (field : String) (q : BoolQuery) :
    (condition warnings conjunction (.text field) (.known .between) (.tuple [v, w]) q).result =
      .ok (q.addLeaf conjunction .between
        (if rank w.naturalKey < rank v.naturalKey then .between (.text field) w v
          else .between (.text field) v w)) := by
  rw [result_condition, Leaf.make, Leaf.within_eq sortableV sortableW, Result.map_ok]

/-- A range and the same range with its values the other way round are lowered to the same test
exactly if the values have different keys or are one value. Values with different keys are put
in the order of the keys; values with equal keys stay as they were given. -/
theorem between_turned {a b : NaturalKey} (keyV : ofValue v = .ok a) (keyW : ofValue w = .ok b)
    (realV : v.isNan = false) (realW : w.isNan = false) (warnings : Bool)
    (conjunction : Conjunction) (field : String) (q : BoolQuery) :
    ∃ given turned : Leaf,
      (condition warnings conjunction (.text field) (.known .between) (.tuple [v, w]) q).result =
        .ok (q.addLeaf conjunction .between given) ∧
      (condition warnings conjunction (.text field) (.known .between) (.tuple [w, v]) q).result =
        .ok (q.addLeaf conjunction .between turned) ∧
      (given = turned ↔ equal? a b = some false ∨ v = w) ∧
      (less? a b = some true → given = .between (.text field) v w ∧ turned = given) ∧
      (less? b a = some true → given = .between (.text field) w v ∧ turned = given) ∧
      (equal? a b = some true → given = .between (.text field) v w ∧
        turned = .between (.text field) w v) := by
  have sortableV := Value.sortable_of_made keyV realV
  have sortableW := Value.sortable_of_made keyW realW
  have realA := isReal_ofValue keyV realV
  have realB := isReal_ofValue keyW realW
  refine ⟨_, _, result_between sortableV sortableW warnings conjunction field q,
    result_between sortableW sortableV warnings conjunction field q, ?_⟩
  rw [Value.naturalKey_of_made keyV, Value.naturalKey_of_made keyW, less?_eq realA realB,
    less?_eq realB realA, equal?_eq realA realB]
  rcases lt_trichotomy (rank a) (rank b) with below | same | above
  · simp [below, below.not_gt, below.ne]
  · simp [same, Leaf.between_inj, eq_comm]
  · simp [above, above.not_gt, above.ne']

/-- Two spellings of one number, of which neither comes before the other. -/
theorem between_turned_spellings :
    ∃ given turned : Leaf,
      (condition true .or (.text "size") (.known .between) (.tuple [.text "05", .int 5])
        .empty).result = .ok (BoolQuery.empty.addLeaf .or .between given) ∧
      (condition true .or (.text "size") (.known .between) (.tuple [.int 5, .text "05"])
        .empty).result = .ok (BoolQuery.empty.addLeaf .or .between turned) ∧
      (given = turned ↔
        equal? [.number (.int 5)] [.number (.int 5)] = some false ∨ Value.text "05" = .int 5) ∧
      (less? [.number (.int 5)] [.number (.int 5)] = some true →
        given = .between (.text "size") (.text "05") (.int 5) ∧ turned = given) ∧
      (less? [.number (.int 5)] [.number (.int 5)] = some true →
        given = .between (.text "size") (.int 5) (.text "05") ∧ turned = given) ∧
      (equal? [.number (.int 5)] [.number (.int 5)] = some true →
        given = .between (.text "size") (.text "05") (.int 5) ∧
          turned = .between (.text "size") (.int 5) (.text "05")) :=
  between_turned (v := .text "05") (w := .int 5) rfl rfl rfl rfl true .or "size" .empty

/-- It is not so that any two scalars with natural keys may change places. -/
theorem between_keeps_spellings :
    ¬ ∀ (v w : Value) (a b : NaturalKey), v.isScalar = true → w.isScalar = true →
      ofValue v = .ok a → ofValue w = .ok b → v.isNan = false → w.isNan = false →
      ∀ (warnings : Bool) (conjunction : Conjunction) (field : String),
        (Group.lower warnings ⟨conjunction, [.leaf ⟨field, .between, .tuple [v, w]⟩]⟩).result =
        (Group.lower warnings ⟨conjunction, [.leaf ⟨field, .between, .tuple [w, v]⟩]⟩).result := by
  intro always
  have same := always (.text "05") (.text "5") _ _ rfl rfl rfl rfl rfl rfl true .and "size"
  have given : (Group.lower true
      ⟨.and, [.leaf ⟨"size", .between, .tuple [.text "05", .text "5"]⟩]⟩).result =
      .ok ⟨[.leaf (.between (.text "size") (.text "05") (.text "5"))], [], []⟩ := rfl
  have turned : (Group.lower true
      ⟨.and, [.leaf ⟨"size", .between, .tuple [.text "5", .text "05"]⟩]⟩).result =
      .ok ⟨[.leaf (.between (.text "size") (.text "5") (.text "05"))], [], []⟩ := rfl
  rw [given, turned] at same
  simp [Leaf.between] at same

end Lowering

/-- Of two numbers, dates or moments the first is not after the second: as numbers by their values, as
dates in the calendar, as moments in time. -/
inductive Value.AtMost : Value → Value → Prop
  | number {m n : Number} (le : m.place ≤ n.place) : AtMost (.number m) (.number n)
  | date {d e : Date} (le : d.ordinal ≤ e.ordinal) : AtMost (.date d) (.date e)
  | moment {m n : Moment} (le : m.instant ≤ n.instant) : AtMost (.moment m) (.moment n)

/-- Two values of a kind that has an order of its own: numbers, dates, or moments that both know
their distances from universal time or both do not. -/
inductive Value.Akin : Value → Value → Prop
  | numbers {m n : Number} (realM : m.isNan = false) (realN : n.isNan = false) :
      Akin (.number m) (.number n)
  | dates {d e : Date} (validD : d.Valid) (validE : e.Valid) : Akin (.date d) (.date e)
  | moments {m n : Moment} (validM : m.Valid) (validN : n.Valid)
      (aware : m.offset.isSome = n.offset.isSome) : Akin (.moment m) (.moment n)

/-- Two moments at different distances from universal time whose texts are in another order than the
moments: their clocks show the later one as the earlier, or both the same time east of it. -/
def Moment.Misread (m n : Moment) : Prop :=
  m.offset ≠ n.offset ∧
    (m.reading < n.reading ∧ n.instant < m.instant ∨ n.reading < m.reading ∧ m.instant < n.instant ∨
      m.reading = n.reading ∧ 0 ≤ m.offset.getD 0 ∧ 0 ≤ n.offset.getD 0)

/-- Two values that are misread moments. -/
def Value.Misread (v w : Value) : Prop :=
  ∃ m n, v = .moment m ∧ w = .moment n ∧ m.Misread n

namespace Moment

variable {m n : Moment}

theorem Misread.symm (misread : m.Misread n) : n.Misread m := by
  obtain ⟨apart, readings | readings | ⟨same, eastM, eastN⟩⟩ := misread
  · exact ⟨apart.symm, .inr (.inl readings)⟩
  · exact ⟨apart.symm, .inl readings⟩
  · exact ⟨apart.symm, .inr (.inr ⟨same.symm, eastN, eastM⟩)⟩

/-- Of two moments the one that is not after the other in natural order is not later either, unless
they are misread. -/
theorem instant_le_iff (validM : m.Valid) (validN : n.Valid)
    (aware : m.offset.isSome = n.offset.isSome) (notAfter : ¬ rank n.key < rank m.key) :
    m.instant ≤ n.instant ↔ ¬ m.Misread n := by
  rw [rank_key_lt_iff validN validM] at notAfter
  rw [Misread, instant_eq, instant_eq]
  cases knownM : m.offset with
  | none =>
    cases knownN : n.offset with
    | none =>
      simp only [Option.getD_none, ne_eq, not_true, false_and, not_false_iff, iff_true]
      omega
    | some p => simp [knownM, knownN] at aware
  | some o =>
    cases knownN : n.offset with
    | none => simp [knownM, knownN] at aware
    | some p =>
      simp only [zoneKey, knownM, knownN, Option.elim_some, rank_offsetKey_lt_iff] at notAfter
      simp only [Option.getD_some, ne_eq, Option.some.injEq]
      omega

end Moment

namespace Value

variable {v w : Value}

theorem Akin.symm (akin : v.Akin w) : w.Akin v := by
  cases akin with
  | numbers realM realN => exact .numbers realN realM
  | dates validD validE => exact .dates validE validD
  | moments validM validN aware => exact .moments validN validM aware.symm

theorem Misread.symm (misread : v.Misread w) : w.Misread v := by
  obtain ⟨m, n, rfl, rfl, moments⟩ := misread
  exact ⟨n, m, rfl, rfl, moments.symm⟩

theorem Akin.sortable (akin : v.Akin w) : v.Sortable := by
  cases akin with
  | numbers realM _ => exact sortable_of_made rfl realM
  | dates validD _ => exact sortable_of_made (ofValue_date validD) rfl
  | moments validM _ _ => exact sortable_of_made (ofValue_moment validM) rfl

/-- Of two values of one kind the one that is not after the other in natural order is not greater
either, unless they are misread moments. -/
theorem atMost_iff (akin : v.Akin w) (notAfter : ¬ rank w.naturalKey < rank v.naturalKey) :
    v.AtMost w ↔ ¬ v.Misread w := by
  cases akin with
  | @numbers m n realM realN =>
    have le : m.place ≤ n.place := by
      have keys : ¬ rank [.number n] < rank [.number m] := notAfter
      simpa [KeyPart.rank, List.cons_lt_cons_iff] using keys
    have read : ¬ (number m).Misread (number n) := by
      rintro ⟨_, _, moment, -⟩
      cases moment
    simpa [read] using AtMost.number le
  | @dates d e validD validE =>
    rw [naturalKey_of_made (ofValue_date validD), naturalKey_of_made (ofValue_date validE),
      Date.rank_key_lt_iff, ← Date.ordinal_lt_iff validE validD] at notAfter
    have read : ¬ (date d).Misread (date e) := by
      rintro ⟨_, _, moment, -⟩
      cases moment
    simpa [read] using AtMost.date (Nat.le_of_not_lt notAfter)
  | @moments m n validM validN aware =>
    rw [naturalKey_of_made (ofValue_moment validM), naturalKey_of_made (ofValue_moment validN)]
      at notAfter
    have instants := Moment.instant_le_iff validM validN aware notAfter
    constructor
    · rintro (_ | _ | le) ⟨m', n', same, same', misread⟩
      cases same
      cases same'
      exact instants.mp le misread
    · intro read
      exact .moment (instants.mpr fun misread => read ⟨m, n, rfl, rfl, misread⟩)

end Value

/-- A range between two numbers, dates or moments is lowered to a test with just these two as bounds.
The lower bound is at most the upper one, unless the two are misread moments. -/
theorem Lowering.between_bounds {v w : Value} (akin : v.Akin w) (warnings : Bool)
    (conjunction : Conjunction) (field : String) (q : BoolQuery) :
    ∃ low high,
      (condition warnings conjunction (.text field) (.known .between) (.tuple [v, w]) q).result =
        .ok (q.addLeaf conjunction .between (.between (.text field) low high)) ∧
      (low = v ∧ high = w ∨ low = w ∧ high = v) ∧
      (low.AtMost high ↔ ¬ v.Misread w) := by
  have lowered := result_between akin.sortable akin.symm.sortable warnings conjunction field q
  by_cases below : rank w.naturalKey < rank v.naturalKey
  · refine ⟨w, v, by simpa [below] using lowered, .inr ⟨rfl, rfl⟩, ?_⟩
    rw [Value.atMost_iff akin.symm below.not_gt]
    exact not_congr ⟨.symm, .symm⟩
  · exact ⟨v, w, by simpa [below] using lowered, .inl ⟨rfl, rfl⟩, Value.atMost_iff akin below⟩

private theorem akin_offsets :
    Value.Akin (.moment ⟨⟨2024, 1, 1⟩, ⟨12, 0, 0, 0⟩, some 0⟩)
      (.moment ⟨⟨2024, 1, 1⟩, ⟨13, 0, 0, 0⟩, some 18000⟩) :=
  .moments ⟨⟨by decide, by decide, by decide⟩, ⟨by decide, by decide, by decide, by decide⟩, by simp⟩
    ⟨⟨by decide, by decide, by decide⟩, ⟨by decide, by decide, by decide, by decide⟩, by simp⟩ rfl

/-- Noon by universal time, and the hour that a clock five hours to the east shows four hours
before. -/
theorem Lowering.between_bounds_offsets :
    ∃ low high,
      (condition true .and (.text "seen") (.known .between)
        (.tuple [.moment ⟨⟨2024, 1, 1⟩, ⟨12, 0, 0, 0⟩, some 0⟩,
          .moment ⟨⟨2024, 1, 1⟩, ⟨13, 0, 0, 0⟩, some 18000⟩]) .empty).result =
        .ok (BoolQuery.empty.addLeaf .and .between (.between (.text "seen") low high)) ∧
      (low = .moment ⟨⟨2024, 1, 1⟩, ⟨12, 0, 0, 0⟩, some 0⟩ ∧
          high = .moment ⟨⟨2024, 1, 1⟩, ⟨13, 0, 0, 0⟩, some 18000⟩ ∨
        low = .moment ⟨⟨2024, 1, 1⟩, ⟨13, 0, 0, 0⟩, some 18000⟩ ∧
          high = .moment ⟨⟨2024, 1, 1⟩, ⟨12, 0, 0, 0⟩, some 0⟩) ∧
      (low.AtMost high ↔ ¬ (Value.moment ⟨⟨2024, 1, 1⟩, ⟨12, 0, 0, 0⟩, some 0⟩).Misread
        (.moment ⟨⟨2024, 1, 1⟩, ⟨13, 0, 0, 0⟩, some 18000⟩)) :=
  Lowering.between_bounds akin_offsets true .and "seen" .empty

/-- It is not so that the lower bound is always at most the upper one. -/
theorem Lowering.between_turns_offsets :
    ¬ ∀ (v w : Value), v.Akin w → ∀ (warnings : Bool) (field : String), ∃ low high,
      (Group.lower warnings ⟨.and, [.leaf ⟨field, .between, .tuple [v, w]⟩]⟩).result =
        .ok ⟨[.leaf (.between (.text field) low high)], [], []⟩ ∧ low.AtMost high := by
  intro always
  obtain ⟨low, high, lowered, le⟩ := always
    (.moment ⟨⟨2024, 1, 1⟩, ⟨12, 0, 0, 0⟩, some 0⟩) (.moment ⟨⟨2024, 1, 1⟩, ⟨13, 0, 0, 0⟩, some 18000⟩)
    akin_offsets true "seen"
  have kept : (Group.lower true ⟨.and, [.leaf ⟨"seen", .between,
      .tuple [.moment ⟨⟨2024, 1, 1⟩, ⟨12, 0, 0, 0⟩, some 0⟩,
        .moment ⟨⟨2024, 1, 1⟩, ⟨13, 0, 0, 0⟩, some 18000⟩]⟩]⟩).result =
      .ok ⟨[.leaf (.between (.text "seen") (.moment ⟨⟨2024, 1, 1⟩, ⟨12, 0, 0, 0⟩, some 0⟩)
        (.moment ⟨⟨2024, 1, 1⟩, ⟨13, 0, 0, 0⟩, some 18000⟩))], [], []⟩ := rfl
  rw [kept] at lowered
  simp only [Except.ok.injEq, BoolQuery.mk.injEq, List.cons.injEq, Clause.leaf.injEq,
    Leaf.between_inj, and_true] at lowered
  obtain ⟨rfl, rfl⟩ := lowered
  cases le with
  | moment later => exact absurd later (by decide)

end SearchFilter
