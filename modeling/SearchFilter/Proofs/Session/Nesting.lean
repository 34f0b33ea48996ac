import SearchFilter.Proofs.Session.Run
import SearchFilter.Proofs.Store.Containment

/-!
Groups that calls put into one another. A group is refused as a member of itself, and nothing else is:
so a chain of groups is closed by an addition to a group inside the one that is added. No group is inside
itself exactly if no call of a run does so, and only then can every group be unfolded to its end.
-/

namespace SearchFilter.Session

open Relation

variable {s : Session} {t : Turn} {turns : List Turn} {call : Call} {goal inner : GroupId} {m : Member}
  {entityType conjunction : Value} {settings : Option Settings}

/-- The groups that a call names are in the store. -/
def Knows (s : Session) (call : Call) : Prop :=
  ∀ goal m, call.addition? s.query.root = some (goal, m) →
    goal < s.groups.cells.length ∧ ∀ inner, m = .group inner → inner < s.groups.cells.length

/-- If the call puts a group into another, the other one is neither the same nor inside it. -/
def Spares (s : Session) (call : Call) : Prop :=
  ∀ goal inner, call.addition? s.query.root = some (goal, .group inner) →
    s.succeeds call = true → ¬ ReflTransGen s.groups.Contains inner goal

/-- Members are added one by one in a run, to groups that are in the store. -/
def Nests (s : Session) : List Turn → Prop
  | [] => True
  | t :: rest => t.call.Stepwise ∧ s.Knows t.call ∧ (s.take t).Nests rest

/-- No call of a run puts a group into one that is inside it. -/
def SparesAll (s : Session) : List Turn → Prop
  | [] => True
  | t :: rest => (s.facing t).Spares t.call ∧ (s.take t).SparesAll rest

/-- What the nesting of groups keeps true: members are in the store, and no group is its own member. -/
structure Nested (s : Session) : Prop where
  closed : s.groups.Closed
  apart : ∀ id, ¬ s.groups.Contains id id

private theorem spares_of_none (nothing : s.succeeds call = true → call.addition? s.query.root = none) :
    s.Spares call := by
  intro goal inner adds answered
  cases (nothing answered).symm.trans adds

/-- A call leaves the groups without a cycle exactly if there was none and it closes none. -/
theorem acyclic_perform_iff (stepwise : call.Stepwise) (knows : s.Knows call) :
    (s.perform call).1.groups.Acyclic ↔ s.groups.Acyclic ∧ s.Spares call := by
  cases change_cases s call with
  | none same nothing =>
    rw [same]
    exact (and_iff_left (spares_of_none nothing)).symm
  | created same answered =>
    rw [same, Store.Acyclic, Store.contains_create]
    exact (and_iff_left (spares_of_none fun _ => rfl)).symm
  | filled | read | assigned => cases stepwise
  | @added _ goal m adds stored answered =>
    obtain ⟨cell, found⟩ : ∃ cell, s.groups.cell? goal = some cell :=
      ⟨_, List.getElem?_eq_getElem (knows goal m adds).1⟩
    cases m with
    | leaf c =>
      rw [Store.Acyclic, Store.contains_add_leaf found stored]
      refine (and_iff_left ?_).symm
      intro goal inner other
      cases adds.symm.trans other
    | group inner =>
      rw [Store.acyclic_add_group_iff found stored]
      refine and_congr_right fun _ => ⟨fun apart goal inner other _ => ?_, fun spares => ?_⟩
      · cases adds.symm.trans other
        exact apart
      · exact spares goal inner adds answered

theorem nested_perform (stepwise : call.Stepwise) (knows : s.Knows call) (nested : s.Nested) :
    (s.perform call).1.Nested := by
  cases change_cases s call with
  | none same nothing => exact ⟨same ▸ nested.closed, same ▸ nested.apart⟩
  | created same answered =>
    refine ⟨same ▸ Store.closed_create_empty nested.closed, fun id => ?_⟩
    rw [same, Store.contains_create]
    exact nested.apart id
  | filled | read | assigned => cases stepwise
  | @added _ goal m adds stored answered =>
    obtain ⟨present, known⟩ := knows goal m adds
    have found : s.groups.cell? goal = some _ := List.getElem?_eq_getElem present
    refine ⟨Store.closed_add nested.closed found known stored, fun id contains => ?_⟩
    rcases (Store.contains_add_iff found stored).mp contains with old | ⟨rfl, same⟩
    · exact nested.apart id old
    · exact (Store.add_isOk_iff found).mp ⟨_, stored⟩ same

theorem nested_run (nests : s.Nests turns) (nested : s.Nested) : (s.run turns).Nested := by
  induction turns generalizing s with
  | nil => exact nested
  | cons t rest ih =>
    obtain ⟨stepwise, knows, later⟩ := nests
    have facing : (s.facing t).Nested := ⟨nested.closed, nested.apart⟩
    exact ih later (nested_perform stepwise knows facing)

/-- A run leaves the groups without a cycle exactly if there was none and no call closes one. -/
theorem acyclic_run_iff_sparesAll (nests : s.Nests turns) :
    (s.run turns).groups.Acyclic ↔ s.groups.Acyclic ∧ s.SparesAll turns := by
  induction turns generalizing s with
  | nil => exact (and_iff_left trivial).symm
  | cons t rest ih =>
    obtain ⟨stepwise, knows, later⟩ := nests
    have first : (s.take t).groups.Acyclic ↔ s.groups.Acyclic ∧ (s.facing t).Spares t.call :=
      acyclic_perform_iff (s := s.facing t) stepwise knows
    rw [run_cons, ih later, first, and_assoc]
    rfl

theorem refused_iff (adds : call.addition? s.query.root = some (goal, .group inner))
    (present : goal < s.groups.cells.length) :
    (s.perform call).2.result = .error (.malformed .containsItself) ↔ inner = goal := by
  have found : s.groups.cell? goal = some _ := List.getElem?_eq_getElem present
  rw [perform_of_addition adds]
  by_cases same : inner = goal <;> simp [Store.add, found, same, Session.change]

private theorem nested_new (new : New entityType conjunction settings s) :
    s.Nested ∧ s.groups.Acyclic := by
  obtain ⟨known, _, begins, _⟩ := queryMake_eq_ok (queryMake_of_new new)
  -- there is but one group, and it is empty
  have nothing : ∀ outer inner, ¬ s.groups.Contains outer inner := by
    rw [begins, Store.contains_create]
    rintro outer inner ⟨cell, found, _⟩
    cases found
  refine ⟨⟨fun outer inner contains => absurd contains (nothing outer inner),
    fun id => nothing id id⟩, fun id cycle => ?_⟩
  obtain ⟨inner, first, _⟩ := TransGen.head'_iff.mp cycle
  exact nothing id inner first

/-- However groups are put into one another, none is its own member, for this and only this is refused.
None is inside itself exactly if no call puts a group into one that is inside it already; then going from
groups to their members comes to an end, every group has its tree, and else some group has none. -/
theorem acyclic_run_iff (new : New entityType conjunction settings s) (nests : s.Nests turns) :
    ((s.run turns).groups.Acyclic ↔ s.SparesAll turns) ∧
    ((s.run turns).groups.Acyclic ↔
      WellFounded fun inner outer => (s.run turns).groups.Contains outer inner) ∧
    ((s.run turns).groups.Acyclic ↔
      ∀ id < (s.run turns).groups.cells.length, ∃ g, (s.run turns).groups.tree? id = some g) ∧
    (∀ id, ¬ (s.run turns).groups.Contains id id) ∧
    ∀ call goal inner, call.addition? (s.run turns).query.root = some (goal, .group inner) →
      goal < (s.run turns).groups.cells.length →
      (((s.run turns).perform call).2.result = .error (.malformed .containsItself) ↔
        inner = goal) := by
  obtain ⟨begins, acyclic⟩ := nested_new new
  have nested := nested_run nests begins
  refine ⟨?_, Store.acyclic_iff_wellFounded nested.closed, Store.acyclic_iff_trees nested.closed,
    nested.apart, fun call goal inner adds present => refused_iff adds present⟩
  rw [acyclic_run_iff_sparesAll nests]
  exact and_iff_right acyclic

/-- Two new groups, the second of which is put into the first, and the first into the root. -/
def chainCalls : List Turn :=
  [.createGroup (.conjunction .or), .createGroup (.conjunction .and),
    .condition (some 2) (.value (.text "body")) (.operator .isNull) .null,
    .add (some 1) (.group 2), .add none (.group 1)].map fun call => ⟨call, .vacant, true⟩

/-- Two new groups that are put into each other. -/
def mutualCalls : List Turn :=
  [.createGroup (.conjunction .and), .createGroup (.conjunction .and), .add (some 1) (.group 2),
    .add (some 2) (.group 1)].map fun call => ⟨call, .vacant, true⟩

theorem acyclic_run_chain : (overNodes.run chainCalls).groups.Acyclic ∧
    overNodes.SparesAll chainCalls := by
  have nests : overNodes.Nests chainCalls := by
    refine ⟨trivial, ?_, trivial, ?_, trivial, ?_, trivial, ?_, trivial, ?_, trivial⟩
    · rintro _ _ ⟨⟩
    · rintro _ _ ⟨⟩
    · rintro _ _ ⟨⟩
      exact ⟨by decide, by rintro _ ⟨⟩⟩
    · rintro _ _ ⟨⟩
      exact ⟨by decide, by rintro _ ⟨⟩; decide⟩
    · rintro _ _ ⟨⟩
      exact ⟨by decide, by rintro _ ⟨⟩; decide⟩
  have trees : ∀ id < (overNodes.run chainCalls).groups.cells.length,
      ∃ g, (overNodes.run chainCalls).groups.tree? id = some g := by
    intro id bound
    match id, bound with
    | 0, _ => exact ⟨_, rfl⟩
    | 1, _ => exact ⟨_, rfl⟩
    | 2, _ => exact ⟨_, rfl⟩
    | id + 3, bound =>
      have past : id + 3 < 3 := bound
      omega
  have known := acyclic_run_iff new_overNodes nests
  have acyclic := known.2.2.1.mpr trees
  exact ⟨acyclic, known.1.mp acyclic⟩

/-- Both additions are accepted, and the first group is then inside itself and has no tree. -/
theorem mutual_groups_inside_themselves :
    overNodes.succeeded mutualCalls = mutualCalls.map Turn.call ∧
    TransGen (overNodes.run mutualCalls).groups.Contains 1 1 ∧
    (overNodes.run mutualCalls).groups.tree? 1 = none := by
  have there : (overNodes.run mutualCalls).groups.Contains 1 2 :=
    ⟨⟨.and, [.group 2]⟩, rfl, List.mem_singleton_self _⟩
  have back : (overNodes.run mutualCalls).groups.Contains 2 1 :=
    ⟨⟨.and, [.group 1]⟩, rfl, List.mem_singleton_self _⟩
  exact ⟨rfl, .tail (.single there) back, rfl⟩

end SearchFilter.Session
