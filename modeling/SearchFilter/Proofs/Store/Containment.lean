import Mathlib.Data.Fintype.EquivFin
import Mathlib.Logic.Relation
import Mathlib.Order.WellFounded
import SearchFilter.Proofs.Store.Cell

namespace SearchFilter.Store

open Relation

variable {s changed : Store} {id outer inner a b : GroupId} {m : Member} {cell : Cell} {g h : Group}

/-- A group has another one as a member. -/
def Contains (s : Store) (outer inner : GroupId) : Prop :=
  ∃ cell, s.cell? outer = some cell ∧ .group inner ∈ cell.members

/-- No group is inside itself, however deep. -/
def Acyclic (s : Store) : Prop :=
  ∀ id, ¬ TransGen s.Contains id id

/-- The groups that are members are in the store. -/
def Closed (s : Store) : Prop :=
  ∀ outer inner, s.Contains outer inner → inner < s.cells.length

theorem lt_of_contains (contains : s.Contains outer inner) : outer < s.cells.length := by
  obtain ⟨cell, found, _⟩ := contains
  exact (List.getElem?_eq_some_iff.mp found).1

/-- Among the finitely many groups of a store one cannot go inside for ever without a cycle. -/
private theorem wellFounded_fin (acyclic : s.Acyclic) :
    WellFounded fun inner outer : Fin s.cells.length => TransGen s.Contains outer inner := by
  have trans : IsTrans (Fin s.cells.length) fun inner outer => TransGen s.Contains outer inner :=
    ⟨fun _ _ _ lower upper => upper.trans lower⟩
  have irrefl : Std.Irrefl fun inner outer : Fin s.cells.length =>
      TransGen s.Contains outer inner := ⟨fun id => acyclic id⟩
  exact Finite.wellFounded_of_trans_of_irrefl _

theorem exists_tree?_of_members (found : s.cell? id = some cell)
    (known : ∀ inner, s.Contains id inner → ∃ g, s.tree? inner = some g) :
    ∃ g, s.tree? id = some g := by
  have each : ∀ m ∈ cell.members, ∃ t, s.Denotes m t := by
    intro m member
    cases m with
    | leaf c => exact ⟨.leaf c, rfl⟩
    | group inner =>
      obtain ⟨g, unfolded⟩ := known inner ⟨cell, found, member⟩
      exact ⟨g.toTree, tree?_eq_some_iff.mp unfolded⟩
  obtain ⟨trees, denotes⟩ := exists_denotesEach each
  exact ⟨⟨cell.conjunction, trees⟩,
    tree?_eq_some_iff.mpr (denotes_group_iff.mpr ⟨cell, found, rfl, denotes⟩)⟩

theorem exists_tree?_of_acyclic (closed : s.Closed) (acyclic : s.Acyclic)
    (present : id < s.cells.length) : ∃ g, s.tree? id = some g := by
  -- the groups inside a group are below it, and in the store, so the induction reaches them
  have all : ∀ id : Fin s.cells.length, ∃ g, s.tree? id = some g := by
    intro id
    induction id using (wellFounded_fin acyclic).induction with
    | _ id ih =>
      refine exists_tree?_of_members (List.getElem?_eq_getElem id.isLt) fun inner contains => ?_
      exact ih ⟨inner, closed id inner contains⟩ (.single contains)
  exact all ⟨id, present⟩

/-- The tree of a group is larger than those of the groups inside it. -/
theorem sizeOf_lt_of_contains (contains : s.Contains outer inner) (whole : s.tree? outer = some g)
    (part : s.tree? inner = some h) : sizeOf h.toTree < sizeOf g.toTree := by
  obtain ⟨cell, found, member⟩ := contains
  obtain ⟨_, again, _, each⟩ := denotes_group_iff.mp (tree?_eq_some_iff.mp whole)
  cases found.symm.trans again
  obtain ⟨t, inside, denotes⟩ := exists_tree_of_denotesEach each member
  cases denotes_unique denotes (tree?_eq_some_iff.mp part)
  exact sizeOf_lt_of_member inside

/-- If every group can be unfolded, the sizes of the trees bound how deep one can go. -/
theorem wellFounded_of_trees (closed : s.Closed)
    (trees : ∀ id < s.cells.length, ∃ g, s.tree? id = some g) :
    WellFounded fun inner outer => s.Contains outer inner := by
  refine Subrelation.wf ?_ (measure fun id => ((s.tree? id).map fun g => sizeOf g.toTree).getD 0).wf
  intro inner outer contains
  obtain ⟨g, whole⟩ := trees outer (lt_of_contains contains)
  obtain ⟨h, part⟩ := trees inner (closed outer inner contains)
  change (Option.map _ _).getD 0 < (Option.map _ _).getD 0
  rw [whole, part]
  exact sizeOf_lt_of_contains contains whole part

theorem acyclic_of_wellFounded (ends : WellFounded fun inner outer => s.Contains outer inner) :
    s.Acyclic :=
  fun id cycle => ends.transGen.irrefl.irrefl id (transGen_swap.mp cycle)

/-- Without a cycle one comes to an end inside every group, and only so can every group be unfolded. -/
theorem acyclic_iff_wellFounded (closed : s.Closed) :
    s.Acyclic ↔ WellFounded fun inner outer => s.Contains outer inner :=
  ⟨fun acyclic => wellFounded_of_trees closed fun _ => exists_tree?_of_acyclic closed acyclic,
    acyclic_of_wellFounded⟩

theorem acyclic_iff_trees (closed : s.Closed) :
    s.Acyclic ↔ ∀ id < s.cells.length, ∃ g, s.tree? id = some g :=
  ⟨fun acyclic _ => exists_tree?_of_acyclic closed acyclic,
    fun trees => acyclic_of_wellFounded (wellFounded_of_trees closed trees)⟩

theorem contains_add_iff (found : s.cell? id = some cell) (added : s.add id m = .ok changed) :
    changed.Contains outer inner ↔ s.Contains outer inner ∨ outer = id ∧ m = .group inner := by
  unfold Contains
  rw [cell?_add added]
  by_cases same : outer = id
  · subst same
    simp [found, or_comm, eq_comm]
  · simp [same]

private theorem transGen_of_added (edge : ∀ a b, changed.Contains a b → s.Contains a b ∨ a = outer ∧ b = inner)
    (path : TransGen changed.Contains a b) :
    TransGen s.Contains a b ∨
      ReflTransGen s.Contains a outer ∧ ReflTransGen s.Contains inner b := by
  -- along the path, the new edge is either not taken yet or was taken last at some point
  induction path with
  | single last =>
    rcases edge _ _ last with old | ⟨rfl, rfl⟩
    · exact .inl (.single old)
    · exact .inr ⟨.refl, .refl⟩
  | tail _ last ih =>
    rcases edge _ _ last with old | ⟨rfl, rfl⟩
    · rcases ih with path | ⟨above, below⟩
      · exact .inl (path.tail old)
      · exact .inr ⟨above, below.tail old⟩
    · rcases ih with path | ⟨above, _⟩
      · exact .inr ⟨path.to_reflTransGen, .refl⟩
      · exact .inr ⟨above, .refl⟩

/-- A group that is added closes a cycle exactly if the group that gets it is the same or inside it. -/
theorem acyclic_add_group_iff (found : s.cell? outer = some cell)
    (added : s.add outer (.group inner) = .ok changed) :
    changed.Acyclic ↔ s.Acyclic ∧ ¬ ReflTransGen s.Contains inner outer := by
  have grown : ∀ {a b}, changed.Contains a b ↔ s.Contains a b ∨ a = outer ∧ b = inner := by
    intro a b
    rw [contains_add_iff found added, Member.group.injEq, eq_comm (a := inner)]
  constructor
  · intro acyclic
    have kept : s.Contains ≤ changed.Contains := fun _ _ old => grown.mpr (.inl old)
    refine ⟨fun id cycle => acyclic id (TransGen.mono kept _ _ cycle), fun path => ?_⟩
    have back : ReflTransGen changed.Contains inner outer := ReflTransGen.mono kept _ _ path
    exact acyclic outer (.head' (grown.mpr (.inr ⟨rfl, rfl⟩)) back)
  · rintro ⟨acyclic, apart⟩ id cycle
    rcases transGen_of_added (fun _ _ => grown.mp) cycle with old | ⟨above, below⟩
    · exact acyclic id old
    · exact apart (below.trans above)

theorem contains_add_leaf {c : Condition} (found : s.cell? id = some cell)
    (added : s.add id (.leaf c) = .ok changed) : changed.Contains = s.Contains := by
  funext outer inner
  simp [contains_add_iff found added]

theorem contains_create {conjunction : Conjunction} :
    (s.create ⟨conjunction, []⟩).1.Contains = s.Contains := by
  funext outer inner
  refine propext ⟨?_, fun ⟨cell, found, member⟩ => ⟨cell, kept_create outer cell found, member⟩⟩
  rintro ⟨cell, found, member⟩
  rcases cell?_create_iff.mp found with old | ⟨_, rfl⟩
  · exact ⟨cell, old, member⟩
  · cases member

theorem closed_create (closed : s.Closed)
    (known : ∀ inner, .group inner ∈ cell.members → inner < s.cells.length) :
    (s.create cell).1.Closed := by
  rintro outer inner ⟨other, found, member⟩
  rw [cells_create, List.length_append]
  refine Nat.lt_add_right _ ?_
  rcases cell?_create_iff.mp found with old | ⟨_, rfl⟩
  · exact closed outer inner ⟨other, old, member⟩
  · exact known inner member

theorem closed_create_empty {conjunction : Conjunction} (closed : s.Closed) :
    (s.create ⟨conjunction, []⟩).1.Closed :=
  closed_create closed fun _ member => nomatch member

theorem closed_setMembers {members : List Member} (closed : s.Closed)
    (known : ∀ inner, .group inner ∈ members → inner < s.cells.length) :
    (s.setMembers id members).Closed := by
  rintro outer inner ⟨cell, found, member⟩
  rw [length_setMembers]
  rw [cell?_setMembers] at found
  split at found
  · obtain ⟨old, _, rfl⟩ := Option.map_eq_some_iff.mp found
    exact known inner member
  · exact closed outer inner ⟨cell, found, member⟩

theorem lt_of_insert {t : Tree} (stored : (s.insert t).2 = .group inner) :
    inner < (s.insert t).1.cells.length := by
  cases t with
  | leaf c => cases stored
  | group conjunction trees =>
    rw [insert_group] at stored ⊢
    cases stored
    rw [cells_create, List.length_append]
    exact Nat.lt_succ_self _

theorem lt_of_insertAll {trees : List Tree} (stored : .group inner ∈ (s.insertAll trees).2) :
    inner < (s.insertAll trees).1.cells.length := by
  induction trees generalizing s with
  | nil => cases stored
  | cons t rest ih =>
    rw [insertAll_cons] at stored ⊢
    rcases List.mem_cons.mp stored with first | later
    · exact Nat.lt_of_lt_of_le (lt_of_insert first.symm) prefix_insertAll.length_le
    · exact ih later

private theorem closed_insertAll_of_each {trees : List Tree}
    (each : ∀ t ∈ trees, ∀ s : Store, s.Closed → (s.insert t).1.Closed) (closed : s.Closed) :
    (s.insertAll trees).1.Closed := by
  induction trees generalizing s with
  | nil => exact closed
  | cons t rest ih =>
    rw [insertAll_cons]
    exact ih (fun other member => each other (List.mem_cons_of_mem _ member))
      (each t List.mem_cons_self s closed)

theorem closed_insert {t : Tree} (closed : s.Closed) : (s.insert t).1.Closed := by
  induction t generalizing s with
  | leaf c => exact closed
  | group conjunction trees ih =>
    rw [insert_group]
    exact closed_create (closed_insertAll_of_each (fun t member _ => ih t member) closed)
      fun _ => lt_of_insertAll

theorem closed_insertGroup (closed : s.Closed) : (s.insertGroup g).1.Closed :=
  closed_create (closed_insertAll_of_each (fun _ _ _ => closed_insert) closed)
    fun _ => lt_of_insertAll

theorem closed_add (closed : s.Closed) (found : s.cell? id = some cell)
    (known : ∀ inner, m = .group inner → inner < s.cells.length)
    (added : s.add id m = .ok changed) : changed.Closed := by
  intro outer inner contains
  rw [length_add added]
  rcases (contains_add_iff found added).mp contains with old | ⟨_, same⟩
  · exact closed outer inner old
  · exact known inner same

end SearchFilter.Store
