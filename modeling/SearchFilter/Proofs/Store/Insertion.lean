import SearchFilter.Proofs.Store.Unfolding

namespace SearchFilter.Store

variable {s later : Store} {m : Member} {t : Tree} {trees : List Tree} {cell : Cell}

theorem cells_create : (s.create cell).1.cells = s.cells ++ [cell] := rfl

theorem cell?_create : (s.create cell).1.cell? (s.create cell).2 = some cell := by
  simp [create, cell?]

theorem insert_group {conjunction : Conjunction} : s.insert (.group conjunction trees) =
    (((s.insertAll trees).1.create ⟨conjunction, (s.insertAll trees).2⟩).1,
      .group ((s.insertAll trees).1.create ⟨conjunction, (s.insertAll trees).2⟩).2) := rfl

theorem insertAll_cons : s.insertAll (t :: trees) =
    (((s.insert t).1.insertAll trees).1, (s.insert t).2 :: ((s.insert t).1.insertAll trees).2) := rfl

private theorem prefix_insertAll_of_each
    (each : ∀ t ∈ trees, ∀ s : Store, s.cells <+: (s.insert t).1.cells) :
    s.cells <+: (s.insertAll trees).1.cells := by
  induction trees generalizing s with
  | nil => exact List.prefix_refl _
  | cons t rest ih =>
    rw [insertAll_cons]
    exact (each t List.mem_cons_self s).trans
      (ih fun other member => each other (List.mem_cons_of_mem _ member))

theorem prefix_insert : s.cells <+: (s.insert t).1.cells := by
  induction t generalizing s with
  | leaf c => exact List.prefix_refl _
  | group conjunction trees ih =>
    rw [insert_group, cells_create]
    exact (prefix_insertAll_of_each fun t member s => ih t member).trans (List.prefix_append _ _)

theorem prefix_insertAll : s.cells <+: (s.insertAll trees).1.cells :=
  prefix_insertAll_of_each fun _ _ _ => prefix_insert

/-- A member stands for a tree by groups from a number on, whatever becomes of the groups before. -/
def DenotesFrom (s : Store) (n : Nat) (m : Member) (t : Tree) : Prop :=
  (∀ id, m = .group id → n ≤ id) ∧ ∀ later : Store,
    (∀ id cell, n ≤ id → s.cell? id = some cell → later.cell? id = some cell) → later.Denotes m t

theorem DenotesFrom.denotes {n : Nat} (shown : s.DenotesFrom n m t) : s.Denotes m t :=
  shown.2 s fun _ _ _ found => found

/-- A member goes on to stand for its tree in a store that holds the same groups from the number on. -/
theorem DenotesFrom.mono {n k : Nat} (shown : s.DenotesFrom k m t) (fewer : n ≤ k)
    (held : ∀ id cell, k ≤ id → s.cell? id = some cell → later.cell? id = some cell) :
    later.DenotesFrom n m t :=
  ⟨fun id same => Nat.le_trans fewer (shown.1 id same), fun last kept => shown.2 last
    fun id cell bound found => kept id cell (Nat.le_trans fewer bound) (held id cell bound found)⟩

theorem denotesFrom_leaf {n : Nat} {c : Condition} : s.DenotesFrom n (.leaf c) (.leaf c) :=
  ⟨by simp, fun _ _ => rfl⟩

theorem denotesFrom_group {n : Nat} {id : GroupId} {g : Group} (new : n ≤ id)
    (found : s.cell? id = some cell) (same : cell.conjunction = g.conjunction)
    (each : List.Forall₂ (s.DenotesFrom n) cell.members g.members) :
    s.DenotesFrom n (.group id) g.toTree := by
  refine ⟨fun _ named => ?_, fun later held => ?_⟩
  · cases named
    exact new
  · exact denotes_group_iff.mpr ⟨cell, held id cell new found, same,
      each.imp fun _ _ shown => shown.2 later held⟩

private theorem denotesFrom_insertAll_of_each
    (each : ∀ t ∈ trees, ∀ s : Store,
      (s.insert t).1.DenotesFrom s.cells.length (s.insert t).2 t) :
    List.Forall₂ ((s.insertAll trees).1.DenotesFrom s.cells.length) (s.insertAll trees).2 trees := by
  induction trees generalizing s with
  | nil => exact .nil
  | cons t rest ih =>
    rw [insertAll_cons]
    have growth : (s.insert t).1.cells <+: ((s.insert t).1.insertAll rest).1.cells := prefix_insertAll
    have first := (each t List.mem_cons_self s).mono (Nat.le_refl _)
      fun id cell _ found => cell?_of_growth growth found
    have later := ih (s := (s.insert t).1) fun other member => each other (List.mem_cons_of_mem _ member)
    refine .cons first (later.imp fun _ _ shown => ?_)
    exact shown.mono (prefix_insert (s := s) (t := t)).length_le fun _ _ _ found => found

/-- The member that a tree is stored as stands for the tree by the groups that are new. -/
theorem denotesFrom_insert : (s.insert t).1.DenotesFrom s.cells.length (s.insert t).2 t := by
  induction t generalizing s with
  | leaf c => exact denotesFrom_leaf
  | group conjunction trees ih =>
    rw [insert_group]
    have members := denotesFrom_insertAll_of_each (s := s) fun t member s => ih t member (s := s)
    have new : s.cells.length ≤ (s.insertAll trees).1.cells.length := prefix_insertAll.length_le
    refine denotesFrom_group (g := ⟨conjunction, trees⟩) new cell?_create rfl
      (members.imp fun _ _ shown => ?_)
    exact shown.mono (Nat.le_refl _) fun _ _ _ found =>
      cell?_of_growth (List.prefix_append _ _) found

theorem denotesFrom_insertAll :
    List.Forall₂ ((s.insertAll trees).1.DenotesFrom s.cells.length) (s.insertAll trees).2 trees :=
  denotesFrom_insertAll_of_each fun _ _ _ => denotesFrom_insert

theorem tree?_insertGroup {g : Group} : (s.insertGroup g).1.tree? (s.insertGroup g).2 = some g := by
  have stored : (s.insert g.toTree).1.Denotes (s.insert g.toTree).2 g.toTree :=
    denotesFrom_insert.denotes
  exact tree?_eq_some_iff.mpr stored

end SearchFilter.Store
