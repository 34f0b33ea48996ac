import SearchFilter.Proofs.Store.Insertion

namespace SearchFilter.Store

variable {s changed grown : Store} {id other : GroupId} {m : Member} {members : List Member}
  {cell : Cell} {t : Tree} {trees : List Tree}

/-- The groups of a store are found unchanged in another. -/
def Kept (s grown : Store) : Prop :=
  ∀ id cell, s.cell? id = some cell → grown.cell? id = some cell

theorem Kept.refl : s.Kept s :=
  fun _ _ found => found

theorem Kept.trans (first : s.Kept changed) (second : changed.Kept grown) : s.Kept grown :=
  fun id cell found => second id cell (first id cell found)

theorem kept_of_growth (growth : s.cells <+: grown.cells) : s.Kept grown :=
  fun _ _ found => cell?_of_growth growth found

theorem kept_create : s.Kept (s.create cell).1 :=
  kept_of_growth (List.prefix_append _ _)

theorem kept_insert : s.Kept (s.insert t).1 :=
  kept_of_growth prefix_insert

theorem kept_insertGroup {g : Group} : s.Kept (s.insertGroup g).1 :=
  (kept_of_growth prefix_insertAll).trans kept_create

theorem cell?_setMembers : (s.setMembers id members).cell? other =
    if other = id then (s.cell? id).map ({ · with members }) else s.cell? other := by
  unfold setMembers
  cases found : s.cell? id with
  | none => by_cases same : other = id <;> simp [same, found]
  | some cell =>
    have bound : id < s.cells.length := (List.getElem?_eq_some_iff.mp found).1
    simp only [cell?, List.getElem?_set, Option.map_some]
    by_cases same : other = id
    · simp [same, bound]
    · simp [same, Ne.symm same]

theorem length_setMembers : (s.setMembers id members).cells.length = s.cells.length := by
  unfold setMembers
  cases s.cell? id <;> simp

theorem eq_setMembers_of_add (added : s.add id m = .ok changed) :
    (s.cell? id = none ∧ changed = s) ∨ ∃ cell, s.cell? id = some cell ∧ m ≠ .group id ∧
      changed = s.setMembers id (cell.members ++ [m]) := by
  unfold add at added
  cases found : s.cell? id with
  | none =>
    rw [found] at added
    cases added
    exact .inl ⟨rfl, rfl⟩
  | some cell =>
    rw [found] at added
    refine .inr ⟨cell, rfl, ?_⟩
    cases m with
    | leaf c =>
      cases added
      exact ⟨by simp, rfl⟩
    | group inner =>
      simp only at added
      split at added
      · cases added
      · next different =>
        cases added
        exact ⟨by simpa using different, rfl⟩

/-- An addition concerns one group, which gets the new member behind the others. -/
theorem cell?_add (added : s.add id m = .ok changed) : changed.cell? other =
    if other = id then (s.cell? id).map fun cell => { cell with members := cell.members ++ [m] }
    else s.cell? other := by
  rcases eq_setMembers_of_add added with ⟨missing, rfl⟩ | ⟨cell, found, _, rfl⟩
  · split
    · next same => rw [same, missing, Option.map_none]
    · rfl
  · rw [cell?_setMembers, found, Option.map_some, Option.map_some]

theorem length_add (added : s.add id m = .ok changed) : changed.cells.length = s.cells.length := by
  rcases eq_setMembers_of_add added with ⟨_, rfl⟩ | ⟨_, _, _, rfl⟩
  · rfl
  · exact length_setMembers

theorem cell?_create_iff {found : Cell} : (s.create cell).1.cell? other = some found ↔
    s.cell? other = some found ∨ other = s.cells.length ∧ found = cell := by
  unfold cell?
  rw [cells_create, List.getElem?_append]
  split
  · next before => simp [Nat.ne_of_lt before]
  · next behind =>
    have past := Nat.le_of_not_lt behind
    rw [List.getElem?_eq_none past, List.getElem?_singleton]
    rcases Nat.eq_or_lt_of_le past with new | beyond
    · simp [← new, eq_comm]
    · simp [Nat.sub_ne_zero_of_lt beyond, Nat.ne_of_gt beyond]

/-- A group is refused as a member of itself, and nothing else is refused. -/
theorem add_isOk_iff (found : s.cell? id = some cell) :
    (∃ changed, s.add id m = .ok changed) ↔ m ≠ .group id := by
  constructor
  · rintro ⟨changed, added⟩
    rcases eq_setMembers_of_add added with ⟨missing, _⟩ | ⟨_, _, different, _⟩
    · cases missing.symm.trans found
    · exact different
  · intro different
    cases m with
    | leaf c =>
      simp only [add, found]
      exact ⟨_, rfl⟩
    | group inner =>
      have other : inner ≠ id := fun same => different (same ▸ rfl)
      simp only [add, found, if_neg other]
      exact ⟨_, rfl⟩

end SearchFilter.Store
