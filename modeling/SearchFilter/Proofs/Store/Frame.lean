import SearchFilter.Proofs.Store.Containment

namespace SearchFilter.Store

open Relation

variable {s changed : Store} {id outer inner : GroupId} {t : Tree}

/-- One comes from a group to another by going to members, or they are the same. -/
def Reaches (s : Store) (outer inner : GroupId) : Prop :=
  ReflTransGen s.Contains outer inner

/-- Two stores have the same groups at a place and inside it. -/
def AgreeBelow (s changed : Store) (id : GroupId) : Prop :=
  ∀ inner, s.Reaches id inner → changed.cell? inner = s.cell? inner

/-- A group that is reached after the change was reached before, if what was reached is the same. -/
theorem AgreeBelow.reaches (agree : s.AgreeBelow changed id) (path : changed.Reaches id inner) :
    s.Reaches id inner := by
  induction path with
  | refl => exact .refl
  | tail _ last ih =>
    obtain ⟨cell, found, member⟩ := last
    exact ih.tail ⟨cell, agree _ ih ▸ found, member⟩

theorem AgreeBelow.symm (agree : s.AgreeBelow changed id) : changed.AgreeBelow s id :=
  fun inner path => (agree inner (agree.reaches path)).symm

theorem AgreeBelow.member (agree : s.AgreeBelow changed outer) (contains : s.Contains outer inner) :
    s.AgreeBelow changed inner :=
  fun deeper path => agree deeper (.head contains path)

theorem AgreeBelow.denotes (agree : s.AgreeBelow changed id) (shown : s.Denotes (.group id) t) :
    changed.Denotes (.group id) t := by
  induction t generalizing id with
  | leaf c => cases shown
  | group conjunction trees ih =>
    obtain ⟨_, cell, ⟨rfl⟩, found, rfl, each⟩ := shown
    have still : changed.cell? id = some cell := (agree id .refl).trans found
    refine ⟨id, cell, rfl, still, rfl, denotesEach_iff.mpr ?_⟩
    refine forall₂_imp_of_mem (fun m inside t member shown => ?_) (denotesEach_iff.mp each)
    cases m with
    | leaf c => rw [denotes_leaf shown, Denotes]
    | group inner => exact ih t member (agree.member ⟨cell, found, inside⟩) shown

/-- The tree of a group is the same in two stores with the same groups at and inside it; it has none in
one of them only if it has none in the other. -/
theorem AgreeBelow.tree?_eq (agree : s.AgreeBelow changed id) : changed.tree? id = s.tree? id := by
  ext g
  rw [tree?_eq_some_iff, tree?_eq_some_iff]
  exact ⟨agree.symm.denotes, agree.denotes⟩

theorem lt_of_reaches (closed : s.Closed) (present : outer < s.cells.length)
    (path : s.Reaches outer inner) : inner < s.cells.length := by
  induction path with
  | refl => exact present
  | tail _ last _ => exact closed _ _ last

end SearchFilter.Store
