import Mathlib.Data.List.Forall2
import Mathlib.Data.List.Perm.Subperm
import SearchFilter.Proofs.Tree
import SearchFilter.Store

/-!
The trees that the groups of a store stand for. A reference stands for a tree if its group has the
members of that tree; so the tree is unique, and unfolding finds it within as many steps as there are
groups. Growth of a store leaves the trees of its groups as they are.
-/

namespace SearchFilter.Store

variable {s grown : Store} {m : Member} {id : GroupId} {t other : Tree} {g : Group}
  {members : List Member} {trees : List Tree}

mutual

/-- The tree that a member of a group stands for. -/
def Denotes (s : Store) : Member → Tree → Prop
  | m, .leaf c => m = .leaf c
  | m, .group conjunction trees => ∃ id cell, m = .group id ∧ s.cell? id = some cell ∧
    cell.conjunction = conjunction ∧ DenotesEach s cell.members trees
termination_by structural _ t => t

/-- The trees that members stand for, one after another. -/
def DenotesEach (s : Store) : List Member → List Tree → Prop
  | [], [] => True
  | m :: members, t :: trees => Denotes s m t ∧ DenotesEach s members trees
  | _, _ => False
termination_by structural _ trees => trees

end

theorem forall₂_imp_of_mem {R S : Member → Tree → Prop}
    (imp : ∀ m ∈ members, ∀ t ∈ trees, R m t → S m t) (each : List.Forall₂ R members trees) :
    List.Forall₂ S members trees := by
  induction each with
  | nil => exact .nil
  | cons head _ ih =>
    exact .cons (imp _ List.mem_cons_self _ List.mem_cons_self head)
      (ih fun m inside t member =>
        imp m (List.mem_cons_of_mem _ inside) t (List.mem_cons_of_mem _ member))

theorem denotesEach_iff : s.DenotesEach members trees ↔ List.Forall₂ s.Denotes members trees := by
  induction trees generalizing members with
  | nil => cases members <;> simp [DenotesEach]
  | cons t rest ih => cases members <;> simp [DenotesEach, ih]

theorem exists_of_denotesEach (each : List.Forall₂ s.Denotes members trees) (present : t ∈ trees) :
    ∃ m ∈ members, s.Denotes m t := by
  induction each with
  | nil => cases present
  | cons head _ ih =>
    rcases List.mem_cons.mp present with rfl | present
    · exact ⟨_, List.mem_cons_self, head⟩
    · obtain ⟨m, member, denotes⟩ := ih present
      exact ⟨m, List.mem_cons_of_mem _ member, denotes⟩

theorem exists_tree_of_denotesEach (each : List.Forall₂ s.Denotes members trees)
    (present : m ∈ members) : ∃ t ∈ trees, s.Denotes m t := by
  induction each with
  | nil => cases present
  | cons head _ ih =>
    rcases List.mem_cons.mp present with rfl | present
    · exact ⟨_, List.mem_cons_self, head⟩
    · obtain ⟨t, member, denotes⟩ := ih present
      exact ⟨t, List.mem_cons_of_mem _ member, denotes⟩

theorem exists_denotesEach (each : ∀ m ∈ members, ∃ t, s.Denotes m t) :
    ∃ trees, List.Forall₂ s.Denotes members trees := by
  induction members with
  | nil => exact ⟨[], .nil⟩
  | cons m rest ih =>
    obtain ⟨⟨t, head⟩, later⟩ := List.forall_mem_cons.mp each
    obtain ⟨trees, tail⟩ := ih later
    exact ⟨t :: trees, .cons head tail⟩

theorem denotes_group_iff : s.Denotes (.group id) g.toTree ↔ ∃ cell, s.cell? id = some cell ∧
    cell.conjunction = g.conjunction ∧ List.Forall₂ s.Denotes cell.members g.members := by
  simp [Group.toTree, Denotes, denotesEach_iff]

theorem denotes_leaf {c : Condition} (denotes : s.Denotes (.leaf c) t) : t = .leaf c := by
  cases t with
  | leaf other =>
    cases denotes
    rfl
  | group conjunction trees =>
    obtain ⟨_, _, foreign, _⟩ := denotes
    cases foreign

theorem denotes_group (denotes : s.Denotes (.group id) t) : ∃ g : Group, t = g.toTree := by
  cases t with
  | leaf c => cases denotes
  | group conjunction trees => exact ⟨⟨conjunction, trees⟩, rfl⟩

private theorem trees_unique {known : List Tree}
    (determined : List.Forall₂ (fun m t => ∀ other, s.Denotes m other → t = other) members trees)
    (others : List.Forall₂ s.Denotes members known) : trees = known := by
  induction determined generalizing known with
  | nil =>
    cases others
    rfl
  | cons head _ ih =>
    cases others with
    | cons first rest => rw [head _ first, ih rest]

theorem denotes_unique (first : s.Denotes m t) (second : s.Denotes m other) : t = other := by
  induction t generalizing m other with
  | leaf c =>
    cases first
    exact (denotes_leaf second).symm
  | group conjunction trees ih =>
    obtain ⟨id, cell, rfl, found, rfl, each⟩ := first
    obtain ⟨g, rfl⟩ := denotes_group second
    obtain ⟨_, again, same, others⟩ := denotes_group_iff.mp second
    cases found.symm.trans again
    have determined : List.Forall₂ (fun m t => ∀ other, s.Denotes m other → t = other)
        cell.members trees :=
      forall₂_imp_of_mem (fun _ _ t member denotes _ => ih t member denotes)
        (denotesEach_iff.mp each)
    rw [Group.toTree, same, trees_unique determined others]

theorem cell?_of_growth (growth : s.cells <+: grown.cells) {cell : Cell}
    (found : s.cell? id = some cell) : grown.cell? id = some cell := by
  obtain ⟨added, same⟩ := growth
  have bound : id < s.cells.length := (List.getElem?_eq_some_iff.mp found).1
  rw [cell?, ← same, List.getElem?_append_left bound]
  exact found

theorem mapM_eq_some_iff {f : Member → Option Tree} :
    members.mapM f = some trees ↔ List.Forall₂ (fun m t => f m = some t) members trees := by
  induction members generalizing trees with
  | nil => simp [eq_comm]
  | cons m rest ih =>
    cases trees with
    | nil => simp [Option.bind_eq_some_iff]
    | cons t later => simp [Option.bind_eq_some_iff, ih, and_comm]

/-- What unfolding gives is the tree that the reference stands for. -/
theorem denotes_of_unfoldWithin {fuel : Nat} (unfolded : s.unfoldWithin fuel id = some g) :
    s.Denotes (.group id) g.toTree := by
  induction fuel generalizing id g with
  | zero => cases unfolded
  | succ fuel ih =>
    obtain ⟨cell, found, unfolded⟩ := Option.bind_eq_some_iff.mp unfolded
    obtain ⟨trees, each, rfl⟩ := Option.map_eq_some_iff.mp unfolded
    refine denotes_group_iff.mpr ⟨cell, found, rfl, ?_⟩
    refine forall₂_imp_of_mem (fun m _ t _ shown => ?_) (mapM_eq_some_iff.mp each)
    cases m with
    | leaf c =>
      cases shown
      rfl
    | group inner =>
      obtain ⟨h, inside, rfl⟩ := Option.map_eq_some_iff.mp shown
      exact ih inside

theorem sizeOf_lt_of_member {conjunction : Conjunction} (member : t ∈ trees) :
    sizeOf t < sizeOf (Tree.group conjunction trees) := by
  have inside := List.sizeOf_lt_of_mem member
  rw [Tree.group.sizeOf_spec]
  omega

private theorem lt_of_denotes (denotes : s.Denotes (.group id) t) : id < s.cells.length := by
  obtain ⟨g, rfl⟩ := denotes_group denotes
  obtain ⟨cell, found, _⟩ := denotes_group_iff.mp denotes
  exact (List.getElem?_eq_some_iff.mp found).1

private theorem length_le_of_denotes {ids : List GroupId} (nodup : ids.Nodup)
    (present : ∀ id ∈ ids, ∃ t, s.Denotes (.group id) t) : ids.length ≤ s.cells.length := by
  have inside : ids ⊆ List.range s.cells.length := fun id member =>
    List.mem_range.mpr (lt_of_denotes (present id member).choose_spec)
  simpa using (nodup.subperm inside).length_le

/-- Unfolding comes to an end if it has more steps left than there are groups that are not being
unfolded. Those that are stand for trees, each larger than the ones inside it. -/
theorem unfoldWithin_of_denotes {fuel : Nat} {above : List GroupId} (nodup : above.Nodup)
    (larger : ∀ outer ∈ above, ∃ t, sizeOf g.toTree < sizeOf t ∧ s.Denotes (.group outer) t)
    (enough : s.cells.length < fuel + above.length) (denotes : s.Denotes (.group id) g.toTree) :
    s.unfoldWithin fuel id = some g := by
  induction fuel generalizing id g above with
  | zero =>
    -- the groups above are different ones of the store, so there are steps left
    have bound := length_le_of_denotes nodup fun outer member =>
      (larger outer member).imp fun _ shown => shown.2
    omega
  | succ fuel ih =>
    obtain ⟨cell, found, same, each⟩ := denotes_group_iff.mp denotes
    -- a group above itself would stand for a tree that is larger than itself
    have fresh : id ∉ above := by
      intro member
      obtain ⟨t, more, again⟩ := larger id member
      exact Nat.lt_irrefl _ (denotes_unique denotes again ▸ more)
    have members : cell.members.mapM (unfoldMember (s.unfoldWithin fuel)) = some g.members := by
      refine mapM_eq_some_iff.mpr (forall₂_imp_of_mem (fun m _ t member shown => ?_) each)
      cases m with
      | leaf c =>
        rw [denotes_leaf shown]
        rfl
      | group inner =>
        obtain ⟨h, rfl⟩ := denotes_group shown
        have smaller : sizeOf h.toTree < sizeOf g.toTree := sizeOf_lt_of_member member
        have below : (id :: above).Nodup := List.nodup_cons.mpr ⟨fresh, nodup⟩
        have unfolded := ih below
          (List.forall_mem_cons.mpr ⟨⟨_, smaller, denotes⟩, fun outer inside =>
            (larger outer inside).imp fun _ shown => ⟨Nat.lt_trans smaller shown.1, shown.2⟩⟩)
          (by simp only [List.length_cons]; omega) shown
        simp [unfoldMember, unfolded]
    simp [unfoldWithin, found, members, same]

/-- A group has the tree that its reference stands for: unfolding misses none. -/
theorem tree?_eq_some_iff : s.tree? id = some g ↔ s.Denotes (.group id) g.toTree :=
  ⟨denotes_of_unfoldWithin, unfoldWithin_of_denotes List.nodup_nil (by simp) (by simp)⟩

theorem unfoldMember_eq_some_iff : unfoldMember s.tree? m = some t ↔ s.Denotes m t := by
  cases m with
  | leaf c =>
    constructor
    · rintro ⟨⟩
      rfl
    · intro denotes
      exact congrArg some (denotes_leaf denotes).symm
  | group id =>
    constructor
    · intro unfolded
      obtain ⟨g, known, rfl⟩ := Option.map_eq_some_iff.mp unfolded
      exact tree?_eq_some_iff.mp known
    · intro denotes
      obtain ⟨g, rfl⟩ := denotes_group denotes
      exact Option.map_eq_some_iff.mpr ⟨g, tree?_eq_some_iff.mpr denotes, rfl⟩

theorem tree?_of_cell? {cell : Cell} (found : s.cell? id = some cell) :
    s.tree? id = (cell.members.mapM (unfoldMember s.tree?)).map (⟨cell.conjunction, ·⟩) := by
  ext g
  rw [tree?_eq_some_iff, denotes_group_iff, Option.map_eq_some_iff]
  constructor
  · rintro ⟨_, again, same, each⟩
    cases found.symm.trans again
    exact ⟨g.members, mapM_eq_some_iff.mpr (each.imp fun _ _ => unfoldMember_eq_some_iff.mpr), by
      rw [same]⟩
  · rintro ⟨trees, each, rfl⟩
    exact ⟨cell, found, rfl, (mapM_eq_some_iff.mp each).imp fun _ _ => unfoldMember_eq_some_iff.mp⟩

end SearchFilter.Store
