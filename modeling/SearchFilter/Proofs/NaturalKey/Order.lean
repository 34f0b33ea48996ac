import SearchFilter.Proofs.NaturalKey.Rank
import SearchFilter.Proofs.Sorting

/-!
Values in natural order. Main statement: among values that have keys and are no non-numbers, the
comparison of keys is a total preorder, and sorting by it never fails and is stable.
-/

namespace SearchFilter

namespace NaturalKey

variable {a b c : NaturalKey}

/-- What comparing two keys comes to: one of the three relations holds, the other two do not, and no
comparison is refused. -/
inductive Compares (a b : NaturalKey) : Ordering → Prop
  | lt (less : less? a b = some true) (equal : equal? a b = some false)
      (greater : less? b a = some false) : Compares a b .lt
  | eq (less : less? a b = some false) (equal : equal? a b = some true)
      (greater : less? b a = some false) : Compares a b .eq
  | gt (less : less? a b = some false) (equal : equal? a b = some false)
      (greater : less? b a = some true) : Compares a b .gt

theorem Compares.unique {first second : Ordering} (left : Compares a b first)
    (right : Compares a b second) : first = second := by
  cases left <;> cases right <;> simp_all

theorem exists_compares (realA : IsReal a) (realB : IsReal b) :
    ∃ verdict, Compares a b verdict := by
  have less := less?_eq realA realB
  have greater := less?_eq realB realA
  have equal := equal?_eq realA realB
  rcases lt_trichotomy (rank a) (rank b) with below | same | above
  · exact ⟨.lt, .lt (by simp [less, below]) (by simp [equal, below.ne])
      (by simp [greater, below.le])⟩
  · exact ⟨.eq, .eq (by simp [less, same]) (by simp [equal, same]) (by simp [greater, same])⟩
  · exact ⟨.gt, .gt (by simp [less, above.le]) (by simp [equal, above.ne'])
      (by simp [greater, above])⟩

theorem less?_eq_false_iff (realA : IsReal a) (realB : IsReal b) :
    less? b a = some false ↔ rank a ≤ rank b := by
  simp [less?_eq realB realA]

theorem less?_eq_true_iff (realA : IsReal a) (realB : IsReal b) :
    less? a b = some true ↔ rank a < rank b := by
  simp [less?_eq realA realB]

end NaturalKey

open NaturalKey

namespace Value

/-- The natural key of a value; a value that has none is given the empty one. -/
def naturalKey (v : Value) : NaturalKey :=
  match ofValue v with
  | .ok key => key
  | .error _ => []

theorem naturalKey_of_made {v : Value} {key : NaturalKey} (made : ofValue v = .ok key) :
    v.naturalKey = key := by
  rw [naturalKey, made]

/-- A value that has a natural key and is no non-number. -/
structure Sortable (v : Value) : Prop where
  keyed : ofValue v = .ok v.naturalKey
  real : v.isNan = false

theorem sortable_of_made {v : Value} {key : NaturalKey} (made : ofValue v = .ok key)
    (real : v.isNan = false) : v.Sortable :=
  ⟨naturalKey_of_made made ▸ made, real⟩

theorem Sortable.isReal {v : Value} (sortable : v.Sortable) : IsReal v.naturalKey :=
  isReal_ofValue sortable.keyed sortable.real

/-- A value does not come behind another in natural order. -/
def NotAfter (v w : Value) : Prop :=
  ∃ a b, ofValue v = .ok a ∧ ofValue w = .ok b ∧ less? b a = some false

/-- Whether two values have equal keys. -/
def keyedAlike (v w : Value) : Bool :=
  match ofValue v, ofValue w with
  | .ok a, .ok b => equal? a b == some true
  | _, _ => false

/-- A list has the values of another in natural order, those with equal keys in the order in which
they were. -/
structure Sorts (values sorted : List Value) : Prop where
  perm : sorted.Perm values
  ordered : sorted.Pairwise NotAfter
  stable : ∀ v ∈ values, sorted.filter v.keyedAlike = values.filter v.keyedAlike

variable {values sorted : List Value} {v w : Value}

theorem notAfter_iff (sortableV : v.Sortable) (sortableW : w.Sortable) :
    v.NotAfter w ↔ rank v.naturalKey ≤ rank w.naturalKey := by
  rw [← less?_eq_false_iff sortableV.isReal sortableW.isReal]
  constructor
  · rintro ⟨a, b, keyV, keyW, notLess⟩
    rw [naturalKey_of_made keyV, naturalKey_of_made keyW]
    exact notLess
  · intro notLess
    exact ⟨_, _, sortableV.keyed, sortableW.keyed, notLess⟩

theorem keyedAlike_eq (sortableV : v.Sortable) (sortableW : w.Sortable) :
    v.keyedAlike w = decide (rank w.naturalKey = rank v.naturalKey) := by
  simp [keyedAlike, sortableV.keyed, sortableW.keyed, equal?_eq sortableV.isReal sortableW.isReal,
    eq_comm]

theorem sorts_of_arranges (sortable : ∀ v ∈ values, v.Sortable)
    (arranged : Sorting.Arranges (rank ∘ naturalKey) values sorted) : Sorts values sorted := by
  have sortableSorted : ∀ v ∈ sorted, v.Sortable :=
    fun v present => sortable v (arranged.perm.subset present)
  have filtered (items : List Value) (all : ∀ w ∈ items, w.Sortable) (v : Value) (known : v.Sortable) :
      items.filter v.keyedAlike = items.filter ((rank ∘ naturalKey) · = rank v.naturalKey) :=
    List.filter_congr fun w present => keyedAlike_eq known (all w present)
  refine ⟨arranged.perm, ?_, ?_⟩
  · refine arranged.ascending.imp_of_mem ?_
    intro v w presentV presentW le
    exact (notAfter_iff (sortableSorted v presentV) (sortableSorted w presentW)).mpr le
  · intro v present
    rw [filtered sorted sortableSorted v (sortable v present),
      filtered values sortable v (sortable v present)]
    convert arranged.stable (rank v.naturalKey)

end Value

namespace NaturalKey

variable {values : List Value}

theorem ofValues_eq (sortable : ∀ v ∈ values, v.Sortable) :
    ofValues values = .ok (values.map fun v => (v.naturalKey, v)) := by
  induction values with
  | nil => rfl
  | cons v rest ih =>
    have later := ih fun w present => sortable w (List.mem_cons_of_mem v present)
    rw [ofValues, (sortable v List.mem_cons_self).keyed, Result.ok_bind, later]
    rfl

/-- Values that have keys and are no non-numbers are arranged by the ranks of their keys. -/
theorem sortValues_arranges (sortable : ∀ v ∈ values, v.Sortable) :
    ∃ sorted, sortValues values = .ok sorted ∧
      Sorting.Arranges (rank ∘ Value.naturalKey) values sorted := by
  let keyed := values.map fun v => (v.naturalKey, v)
  have compared : ∀ p ∈ keyed, ∀ q ∈ keyed,
      less? p.1 q.1 = some (decide (rank p.1 < rank q.1)) := by
    intro p presentP q presentQ
    obtain ⟨v, presentV, rfl⟩ := List.mem_map.mp presentP
    obtain ⟨w, presentW, rfl⟩ := List.mem_map.mp presentQ
    exact less?_eq (sortable v presentV).isReal (sortable w presentW).isReal
  obtain ⟨sorted, found, arranged⟩ : ∃ sorted,
      Sorting.sort? (fun p q : NaturalKey × Value => less? p.1 q.1) keyed = some sorted ∧
        Sorting.Arranges (fun p => rank p.1) keyed sorted :=
    Sorting.sort?_arranges fun p presentP q presentQ => by
      rw [compared p presentP q presentQ]
      congr
  have whole : Sorting.Arranges (rank ∘ Value.naturalKey) (keyed.map (·.2)) (sorted.map (·.2)) := by
    apply arranged.map
    intro p present
    obtain ⟨v, _, rfl⟩ := List.mem_map.mp present
    rfl
  refine ⟨sorted.map (·.2), by simp [sortValues, ofValues_eq sortable, keyed, found], ?_⟩
  simpa [keyed, Function.comp_def] using whole

/-- Two values change places exactly if the second ranks below the first. -/
theorem sortValues_pair_eq {v w : Value} (sortableV : v.Sortable) (sortableW : w.Sortable) :
    sortValues [v, w] =
      .ok (if rank w.naturalKey < rank v.naturalKey then [w, v] else [v, w]) := by
  have keyed : ofValues [v, w] = .ok [(v.naturalKey, v), (w.naturalKey, w)] :=
    ofValues_eq (by simp [sortableV, sortableW])
  have compared := less?_eq sortableW.isReal sortableV.isReal
  by_cases below : rank w.naturalKey < rank v.naturalKey <;>
    simp [sortValues, keyed, Sorting.sort?_pair, compared, below]

/-- Keys of values that are no non-numbers are totally preordered: of less, equal and greater exactly
one holds, no comparison is refused, and less and not greater go on through a third key. So any
such values can be sorted, and those with equal keys stay in the order in which they were. -/
theorem totalPreorder_and_sorts {x y z : Value} {a b c : NaturalKey} (keyX : ofValue x = .ok a)
    (keyY : ofValue y = .ok b) (keyZ : ofValue z = .ok c) (realX : x.isNan = false)
    (realY : y.isNan = false) (realZ : z.isNan = false)
    (sortable : ∀ v ∈ values, (∃ key, ofValue v = .ok key) ∧ v.isNan = false) :
    (∃! verdict, Compares a b verdict) ∧
    (less? a b = some true → less? b c = some true → less? a c = some true) ∧
    (less? b a = some false → less? c b = some false → less? c a = some false) ∧
    ∃ sorted, sortValues values = .ok sorted ∧ Value.Sorts values sorted := by
  have realA := isReal_ofValue keyX realX
  have realB := isReal_ofValue keyY realY
  have realC := isReal_ofValue keyZ realZ
  refine ⟨?_, ?_, ?_, ?_⟩
  · obtain ⟨verdict, compares⟩ := exists_compares realA realB
    exact ⟨verdict, compares, fun other same => same.unique compares⟩
  · intro first second
    rw [less?_eq_true_iff realA realB] at first
    rw [less?_eq_true_iff realB realC] at second
    exact (less?_eq_true_iff realA realC).mpr (first.trans second)
  · intro first second
    rw [less?_eq_false_iff realA realB] at first
    rw [less?_eq_false_iff realB realC] at second
    exact (less?_eq_false_iff realA realC).mpr (first.trans second)
  · have each : ∀ v ∈ values, v.Sortable := by
      intro v present
      obtain ⟨⟨key, made⟩, real⟩ := sortable v present
      exact Value.sortable_of_made made real
    obtain ⟨sorted, found, arranged⟩ := sortValues_arranges each
    exact ⟨sorted, found, Value.sorts_of_arranges each arranged⟩

/-- A number, a text and a decimal number in between, and a list of values of several kinds, two of
them with equal keys. -/
theorem totalPreorder_and_sorts_mixed :
    (∃! verdict, Compares [.number (.int 5)] [.number (.decimal (.finite false 55 (-1)))] verdict) ∧
    (less? [.number (.int 5)] [.number (.decimal (.finite false 55 (-1)))] = some true →
      less? [.number (.decimal (.finite false 55 (-1)))] [.number (.int 6)] = some true →
      less? [.number (.int 5)] [.number (.int 6)] = some true) ∧
    (less? [.number (.decimal (.finite false 55 (-1)))] [.number (.int 5)] = some false →
      less? [.number (.int 6)] [.number (.decimal (.finite false 55 (-1)))] = some false →
      less? [.number (.int 6)] [.number (.int 5)] = some false) ∧
    ∃ sorted, sortValues [.text "x10", .text "05", .int 5, .text "x9", .bool true, .null] = .ok sorted ∧
      Value.Sorts [.text "x10", .text "05", .int 5, .text "x9", .bool true, .null] sorted :=
  totalPreorder_and_sorts (x := .int 5) (y := .decimal (.finite false 55 (-1))) (z := .text "06")
    rfl rfl rfl rfl rfl rfl (by
      intro v present
      simp only [List.mem_cons, List.not_mem_nil, or_false] at present
      rcases present with rfl | rfl | rfl | rfl | rfl | rfl <;> exact ⟨⟨_, rfl⟩, rfl⟩)

end NaturalKey

end SearchFilter
