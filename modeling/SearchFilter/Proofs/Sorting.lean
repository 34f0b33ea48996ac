import Mathlib.Data.List.Basic
import Mathlib.Order.Lattice
import SearchFilter.Sorting

/-!
Sorting when no comparison is refused. The elements have ranks in a linear order, and one is less than
another exactly if its rank is. Main statement: the sort succeeds, and what it gives are the same
elements with ascending ranks, those of one rank in the order in which they were given.
-/

namespace SearchFilter.Sorting

variable {α β γ : Type} [LinearOrder β] {rank : α → β} {less? : α → α → Option Bool} {x y : α}
  {given run sorted : List α}

/-- One list is another one put into the order of ranks, with elements of one rank left in the order
in which they were. -/
structure Arranges (rank : α → β) (given sorted : List α) : Prop where
  perm : sorted.Perm given
  ascending : sorted.Pairwise (rank · ≤ rank ·)
  stable : ∀ b, sorted.filter (rank · = b) = given.filter (rank · = b)

theorem Arranges.of_ascending (ascending : run.Pairwise (rank · ≤ rank ·)) :
    Arranges rank run run :=
  ⟨.refl run, ascending, fun _ => rfl⟩

private theorem filter_reverse_of_descending (descending : run.Pairwise (rank · > rank ·)) (b : β) :
    run.reverse.filter (rank · = b) = run.filter (rank · = b) := by
  induction run with
  | nil => rfl
  | cons x rest ih =>
    have later := ih descending.tail
    by_cases same : rank x = b
    · -- no other element has the rank of the first
      have none : rest.filter (rank · = b) = [] := by
        apply List.filter_eq_nil_iff.mpr
        intro y present
        have below : rank y < rank x := List.rel_of_pairwise_cons descending present
        simpa [← same] using below.ne
      rw [none] at later
      simp [List.reverse_cons, later, same, none]
    · simpa [List.reverse_cons, same] using later

/-- Elements with descending ranks have different ranks, so their order can be turned round. -/
theorem Arranges.of_descending (descending : run.Pairwise (rank · > rank ·)) :
    Arranges rank run run.reverse :=
  ⟨run.reverse_perm, List.pairwise_reverse.mpr (descending.imp le_of_lt),
    filter_reverse_of_descending descending⟩

theorem Arranges.map {f : α → γ} {other : γ → β} (arranged : Arranges rank given sorted)
    (kept : ∀ x ∈ given, other (f x) = rank x) :
    Arranges other (given.map f) (sorted.map f) := by
  have keptSorted : ∀ x ∈ sorted, other (f x) = rank x :=
    fun x present => kept x (arranged.perm.subset present)
  refine ⟨arranged.perm.map f, ?_, ?_⟩
  · rw [List.pairwise_map]
    refine arranged.ascending.imp_of_mem ?_
    intro x y presentX presentY le
    rw [keptSorted x presentX, keptSorted y presentY]
    exact le
  · intro b
    have same (items : List α) (agree : ∀ x ∈ items, other (f x) = rank x) :
        (items.map f).filter (other · = b) = (items.filter (rank · = b)).map f := by
      rw [List.filter_map]
      congr 1
      apply List.filter_congr
      intro x present
      simp [agree x present]
    rw [same sorted keptSorted, same given kept, arranged.stable b]

/-- The ends between which the place of an element lies close in on a place that no element before it
exceeds and all elements behind it do. -/
theorem place_eq_some (ascending : run.Pairwise (rank · ≤ rank ·))
    (compared : ∀ y ∈ run, less? x y = some (decide (rank x < rank y))) {low high : Nat}
    (ordered : low ≤ high) (inside : high ≤ run.length)
    (left : ∀ y ∈ run.take low, rank y ≤ rank x) (right : ∀ y ∈ run.drop high, rank x < rank y) :
    ∃ n, place less? x run.toArray low high = some n ∧ n ≤ run.length ∧
      (∀ y ∈ run.take n, rank y ≤ rank x) ∧ ∀ y ∈ run.drop n, rank x < rank y := by
  induction size : high - low using Nat.strongRecOn generalizing low high with
  | ind distance ih =>
    rw [place]
    by_cases apart : low < high
    · have bound : low + (high - low) / 2 < run.length := by omega
      generalize middle_eq : low + (high - low) / 2 = middle at bound
      have found : run.toArray[middle]? = some run[middle] := by simp [bound]
      simp only [apart, ↓reduceDIte, found,
        compared run[middle] (List.getElem_mem bound)]
      have split := List.pairwise_iff_getElem.mp ascending
      by_cases less : rank x < rank run[middle]
      · simp only [less, decide_true]
        apply ih (middle - low) (by omega) (by omega) (by omega) left ?_ rfl
        intro y present
        obtain ⟨i, later, rfl⟩ := List.mem_drop_iff_getElem.mp present
        rcases Nat.eq_zero_or_pos i with rfl | positive
        · simpa using less
        · exact less.trans_le (split middle (middle + i) bound (by omega) (by omega))
      · simp only [less, decide_false]
        apply ih (high - (middle + 1)) (by omega) (by omega) (by omega) ?_ right rfl
        intro y present
        obtain ⟨i, earlier, rfl⟩ := List.mem_take_iff_getElem.mp present
        have before : i < middle + 1 := by omega
        rcases Nat.lt_succ_iff_lt_or_eq.mp before with strictly | rfl
        · exact (split i middle (by omega) bound strictly).trans (not_lt.mp less)
        · exact not_lt.mp less
    · have met : low = high := by omega
      simp only [apart, ↓reduceDIte]
      exact ⟨low, rfl, by omega, left, met ▸ right⟩

theorem insert_arranges (arranged : Arranges rank given run)
    (compared : ∀ y ∈ given, less? x y = some (decide (rank x < rank y))) :
    ∃ extended, insert less? run x = some extended ∧ Arranges rank (given ++ [x]) extended := by
  have comparedRun : ∀ y ∈ run, less? x y = some (decide (rank x < rank y)) :=
    fun y present => compared y (arranged.perm.subset present)
  obtain ⟨n, placed, -, before, behind⟩ := place_eq_some arranged.ascending comparedRun
    (Nat.zero_le run.length) (Nat.le_refl _) (by simp) (by simp)
  refine ⟨run.take n ++ x :: run.drop n, by simp [insert, placed], ?_, ?_, ?_⟩
  · have moved : (run.take n ++ x :: run.drop n).Perm (x :: run) := by
      have front : (run.take n ++ x :: run.drop n).Perm (x :: (run.take n ++ run.drop n)) :=
        List.perm_middle
      rwa [List.take_append_drop] at front
    exact (moved.trans (arranged.perm.cons x)).trans (List.perm_append_singleton x given).symm
  · have parts : (run.take n ++ run.drop n).Pairwise (rank · ≤ rank ·) := by
      simpa using arranged.ascending
    obtain ⟨first, second, across⟩ := List.pairwise_append.mp parts
    refine List.pairwise_append.mpr ⟨first, List.pairwise_cons.mpr ⟨?_, second⟩, ?_⟩
    · exact fun y present => (behind y present).le
    · intro y present z later
      rcases List.mem_cons.mp later with rfl | later
      · exact before y present
      · exact across y present z later
  · intro b
    have moved : (run.take n ++ x :: run.drop n).filter (rank · = b) =
        (run.take n ++ run.drop n ++ [x]).filter (rank · = b) := by
      by_cases same : rank x = b
      · -- all that stands behind the element has a greater rank
        have none : (run.drop n).filter (rank · = b) = [] := by
          apply List.filter_eq_nil_iff.mpr
          intro y present
          simpa [← same] using (behind y present).ne'
        simp only [List.filter_append, List.filter_cons, same, none, decide_true, ↓reduceIte,
          List.append_nil, List.filter_nil]
      · simp only [List.filter_append, List.filter_cons, same, decide_false, Bool.false_eq_true,
          ↓reduceIte, List.append_nil, List.filter_nil]
    rw [moved, List.take_append_drop, List.filter_append, arranged.stable b, ← List.filter_append]

private theorem foldlM_insert_arranges {rest : List α} (arranged : Arranges rank given run)
    (compared : ∀ x ∈ given ++ rest, ∀ y ∈ given ++ rest,
      less? x y = some (decide (rank x < rank y))) :
    ∃ sorted, rest.foldlM (insert less?) run = some sorted ∧
      Arranges rank (given ++ rest) sorted := by
  induction rest generalizing given run with
  | nil => exact ⟨run, rfl, by simpa using arranged⟩
  | cons x rest ih =>
    obtain ⟨extended, inserted, next⟩ := insert_arranges (x := x) arranged fun y present =>
      compared x (by simp) y (by simp [present])
    obtain ⟨sorted, folded, whole⟩ := ih next (by simpa using compared)
    refine ⟨sorted, ?_, by simpa using whole⟩
    rw [List.foldlM_cons, inserted]
    exact folded

/-- The run that is found ascending goes up as far as it goes. -/
theorem ascendingRun_eq_some {items : List α}
    (compared : ∀ y ∈ x :: items, ∀ z ∈ x :: items, less? y z = some (decide (rank y < rank z))) :
    ∃ tail rest, ascendingRun less? x items = some (x :: tail, rest) ∧ items = tail ++ rest ∧
      (x :: tail).Pairwise (rank · ≤ rank ·) := by
  induction items generalizing x with
  | nil => exact ⟨[], [], rfl, rfl, by simp⟩
  | cons y items ih =>
    have step : less? y x = some (decide (rank y < rank x)) := compared y (by simp) x (by simp)
    by_cases less : rank y < rank x
    · exact ⟨[], y :: items, by simp [ascendingRun, step, less], rfl, by simp⟩
    · obtain ⟨tail, rest, found, parts, ascending⟩ :=
        ih fun a presentA b presentB =>
          compared a (List.mem_cons_of_mem x presentA) b (List.mem_cons_of_mem x presentB)
      refine ⟨y :: tail, rest, by simp [ascendingRun, step, less, found], by simp [parts], ?_⟩
      refine List.pairwise_cons.mpr ⟨?_, ascending⟩
      intro z present
      rcases List.mem_cons.mp present with rfl | later
      · exact not_lt.mp less
      · exact (not_lt.mp less).trans (List.rel_of_pairwise_cons ascending later)

theorem descendingRun_eq_some {items : List α}
    (compared : ∀ y ∈ x :: items, ∀ z ∈ x :: items, less? y z = some (decide (rank y < rank z))) :
    ∃ tail rest, descendingRun less? x items = some (x :: tail, rest) ∧ items = tail ++ rest ∧
      (x :: tail).Pairwise (rank · > rank ·) := by
  induction items generalizing x with
  | nil => exact ⟨[], [], rfl, rfl, by simp⟩
  | cons y items ih =>
    have step : less? y x = some (decide (rank y < rank x)) := compared y (by simp) x (by simp)
    by_cases less : rank y < rank x
    · obtain ⟨tail, rest, found, parts, descending⟩ :=
        ih fun a presentA b presentB =>
          compared a (List.mem_cons_of_mem x presentA) b (List.mem_cons_of_mem x presentB)
      refine ⟨y :: tail, rest, by simp [descendingRun, step, less, found], by simp [parts], ?_⟩
      refine List.pairwise_cons.mpr ⟨?_, descending⟩
      intro z present
      rcases List.mem_cons.mp present with rfl | later
      · exact less
      · exact (List.rel_of_pairwise_cons descending later).trans less
    · exact ⟨[], y :: items, by simp [descendingRun, step, less], rfl, by simp⟩

theorem firstRun_arranges {items : List α}
    (compared : ∀ x ∈ items, ∀ y ∈ items, less? x y = some (decide (rank x < rank y))) :
    ∃ given run rest, firstRun less? items = some (run, rest) ∧ items = given ++ rest ∧
      Arranges rank given run := by
  match items, compared with
  | [], _ => exact ⟨[], [], [], rfl, rfl, .of_ascending (by simp)⟩
  | [x], _ => exact ⟨[x], [x], [], rfl, rfl, .of_ascending (by simp)⟩
  | x :: y :: items, compared =>
    have step : less? y x = some (decide (rank y < rank x)) := compared y (by simp) x (by simp)
    by_cases less : rank y < rank x
    · obtain ⟨tail, rest, found, parts, descending⟩ := descendingRun_eq_some compared
      exact ⟨x :: tail, (x :: tail).reverse, rest, by simp [firstRun, step, less, found],
        by simp [parts], .of_descending descending⟩
    · obtain ⟨tail, rest, found, parts, ascending⟩ := ascendingRun_eq_some compared
      exact ⟨x :: tail, x :: tail, rest, by simp [firstRun, step, less, found], by simp [parts],
        .of_ascending ascending⟩

/-- A list whose elements are compared by their ranks is sorted by them, and stably. -/
theorem sort?_arranges {items : List α}
    (compared : ∀ x ∈ items, ∀ y ∈ items, less? x y = some (decide (rank x < rank y))) :
    ∃ sorted, sort? less? items = some sorted ∧ Arranges rank items sorted := by
  obtain ⟨given, run, rest, found, rfl, arranged⟩ := firstRun_arranges compared
  obtain ⟨sorted, folded, whole⟩ := foldlM_insert_arranges arranged compared
  refine ⟨sorted, ?_, whole⟩
  rw [sort?, found]
  exact folded

theorem arranges_mergeSort (rank : α → β) (given : List α) :
    Arranges rank given (given.mergeSort fun x y => decide (rank x ≤ rank y)) := by
  have trans (x y z : α) (first : decide (rank x ≤ rank y) = true)
      (second : decide (rank y ≤ rank z) = true) : decide (rank x ≤ rank z) = true := by
    rw [decide_eq_true_iff] at first second ⊢
    exact first.trans second
  have total (x y : α) : (decide (rank x ≤ rank y) || decide (rank y ≤ rank x)) = true := by
    simpa using le_total (rank x) (rank y)
  have perm := List.mergeSort_perm given fun x y => decide (rank x ≤ rank y)
  refine ⟨perm, ?_, ?_⟩
  · apply (List.pairwise_mergeSort trans total given).imp
    intro x y le
    exact of_decide_eq_true le
  · intro b
    -- the elements of one rank are in order as they stand, and what is in order is kept
    have alike : (given.filter (rank · = b)).Pairwise fun x y => decide (rank x ≤ rank y) = true := by
      rw [List.pairwise_filter]
      apply List.pairwise_of_forall
      intro x y rankX rankY
      rw [of_decide_eq_true rankX, of_decide_eq_true rankY]
      exact decide_eq_true le_rfl
    have kept := (List.sublist_mergeSort trans total alike List.filter_sublist).filter (rank · = b)
    simp only [List.filter_filter, Bool.and_self] at kept
    exact (kept.eq_of_length (perm.filter _).length_eq.symm).symm

/-- A sort by ranks gives one list for all orders of the same elements exactly if no two different
elements have one rank. -/
theorem sort_of_perm_iff {sort : List α → List α} (arranges : ∀ given, Arranges rank given (sort given))
    {items : List α} : (∀ order : List α, order.Perm items → sort order = sort items) ↔
      ∀ x ∈ items, ∀ y ∈ items, rank x = rank y → x = y := by
  constructor
  · intro one x presentX y presentY same
    -- any element can be given first, and then it is the first of its rank
    have leads (z : α) (present : z ∈ items) :
        ((sort items).filter (rank · = rank z)).head? = some z := by
      obtain ⟨before, after, rfl⟩ := List.append_of_mem present
      rw [← one (z :: (before ++ after)) List.perm_middle.symm, (arranges _).stable]
      simp
    have first := leads x presentX
    rw [same, leads y presentY] at first
    exact (Option.some.inj first).symm
  · intro apart order perm
    have rearranged := (arranges order).perm.trans (perm.trans (arranges items).perm.symm)
    apply List.Perm.eq_of_pairwise ?_ (arranges order).ascending (arranges items).ascending rearranged
    intro x y presentX presentY le ge
    have givenX : x ∈ items := perm.subset ((arranges order).perm.subset presentX)
    have givenY : y ∈ items := (arranges items).perm.subset presentY
    exact apart x givenX y givenY (le_antisymm le ge)

end SearchFilter.Sorting
