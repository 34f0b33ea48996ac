import SearchFilter.Proofs.Condition.Shape
import SearchFilter.Proofs.Store.Cell

namespace SearchFilter

/-- A condition with a property, or a group. -/
def Member.Every (P : Condition → Prop) : Member → Prop
  | .leaf c => P c
  | .group _ => True

/-- A condition that was accepted, or a group. -/
def Member.Sound : Member → Prop
  | .leaf c => c.Accepted
  | .group _ => True

namespace Store

variable {P : Condition → Prop} {s changed : Store} {id : GroupId} {m : Member} {t : Tree}
  {trees : List Tree} {g : Group} {cell : Cell}

/-- Every condition in a group of the store has a property. -/
def Every (P : Condition → Prop) (s : Store) : Prop :=
  ∀ cell ∈ s.cells, ∀ m ∈ cell.members, m.Every P

/-- Every condition in a group of the store was accepted. -/
def Sound (s : Store) : Prop :=
  ∀ cell ∈ s.cells, ∀ m ∈ cell.members, m.Sound

theorem sound_iff_every : s.Sound ↔ s.Every Condition.Accepted := by
  refine forall₂_congr fun cell _ => forall₂_congr fun m _ => ?_
  cases m <;> exact Iff.rfl

/-- A condition stands in a group of the store. -/
def Holds (s : Store) (c : Condition) : Prop :=
  ∃ id cell, s.cell? id = some cell ∧ .leaf c ∈ cell.members

theorem every_iff : s.Every P ↔ ∀ c, s.Holds c → P c := by
  constructor
  · rintro every c ⟨id, cell, found, inside⟩
    exact every cell (List.mem_of_getElem? found) (.leaf c) inside
  · intro each cell present m inside
    obtain ⟨id, found⟩ := List.mem_iff_getElem?.mp present
    cases m with
    | leaf c => exact each c ⟨id, cell, found, inside⟩
    | group other => trivial

theorem every_empty : empty.Every P := by
  intro cell member
  cases member

theorem every_create (every : s.Every P) (members : ∀ m ∈ cell.members, m.Every P) :
    (s.create cell).1.Every P := by
  intro other member
  rcases List.mem_append.mp member with member | member
  · exact every other member
  · cases List.mem_singleton.mp member
    exact members

theorem every_create_empty {conjunction : Conjunction} (every : s.Every P) :
    (s.create ⟨conjunction, []⟩).1.Every P :=
  every_create every (List.forall_mem_nil _)

theorem every_setMembers {members : List Member} (every : s.Every P)
    (each : ∀ m ∈ members, m.Every P) : (s.setMembers id members).Every P := by
  unfold setMembers
  cases s.cell? id with
  | none => exact every
  | some cell =>
    intro other member
    rcases List.mem_or_eq_of_mem_set member with member | rfl
    · exact every other member
    · exact each

theorem every_add (every : s.Every P) (member : m.Every P) (added : s.add id m = .ok changed) :
    changed.Every P := by
  rcases eq_setMembers_of_add added with ⟨_, rfl⟩ | ⟨cell, found, _, rfl⟩
  · exact every
  · refine every_setMembers every fun other inside => ?_
    rcases List.mem_append.mp inside with inside | inside
    · exact every cell (List.mem_of_getElem? found) other inside
    · exact List.mem_singleton.mp inside ▸ member

private theorem every_insertAll_of_each
    (each : ∀ t ∈ trees, ∀ s : Store, s.Every P → (s.insert t).1.Every P ∧ (s.insert t).2.Every P)
    (every : s.Every P) :
    (s.insertAll trees).1.Every P ∧ ∀ m ∈ (s.insertAll trees).2, m.Every P := by
  induction trees generalizing s with
  | nil => exact ⟨every, List.forall_mem_nil _⟩
  | cons t rest ih =>
    rw [insertAll_cons]
    obtain ⟨first, head⟩ := each t List.mem_cons_self s every
    obtain ⟨later, tail⟩ := ih (fun other member => each other (List.mem_cons_of_mem _ member)) first
    exact ⟨later, List.forall_mem_cons.mpr ⟨head, tail⟩⟩

/-- Storing a tree of conditions with a property keeps it true of the store, and the new member has it. -/
theorem every_insert (all : ∀ c ∈ t.conditions, P c) (every : s.Every P) :
    (s.insert t).1.Every P ∧ (s.insert t).2.Every P := by
  induction t generalizing s with
  | leaf c => exact ⟨every, Tree.forall_conditions_leaf.mp all⟩
  | group conjunction trees ih =>
    have each := Tree.forall_conditionsOf.mp all
    obtain ⟨stored, members⟩ :=
      every_insertAll_of_each (fun t member _ every => ih t member (each t member) every) every
    exact ⟨every_create stored members, trivial⟩

theorem every_insertGroup (all : ∀ c ∈ g.conditions, P c) (every : s.Every P) :
    (s.insertGroup g).1.Every P := by
  have each := Tree.forall_conditionsOf.mp all
  obtain ⟨stored, members⟩ :=
    every_insertAll_of_each (fun t member _ every => every_insert (each t member) every) every
  exact every_create stored members

/-- In a sound store a sound member stands for a tree of accepted conditions. -/
theorem accepted_of_denotes (sound : s.Sound) (member : m.Sound) (denotes : s.Denotes m t) :
    ∀ c ∈ t.conditions, c.Accepted := by
  induction t generalizing m with
  | leaf c =>
    cases denotes
    exact Tree.forall_conditions_leaf.mpr member
  | group conjunction trees ih =>
    obtain ⟨id, cell, rfl, found, rfl, each⟩ := denotes
    refine Tree.forall_conditionsOf.mpr fun t present => ?_
    obtain ⟨m, origin, shown⟩ := exists_of_denotesEach (denotesEach_iff.mp each) present
    exact ih t present (sound cell (List.mem_of_getElem? found) m origin) shown

end Store

end SearchFilter
