import SearchFilter.Proofs.Checked
import SearchFilter.Proofs.Result
import SearchFilter.Proofs.Store.Cell
import SearchFilter.Session

namespace SearchFilter

/-- The group that a call is about and the member that it adds there, if it succeeds. -/
def Call.addition? (root : GroupId) : Call → Option (GroupId × Member)
  | .condition on (.group id) _ _ => some (on.getD root, .group id)
  | .condition on (.value field) operator value =>
    match Condition.compose field operator value with
    | .ok c => some (on.getD root, .leaf c)
    | .error _ => none
  | .add on (.group id) => some (on.getD root, .group id)
  | .add on (.condition c) => some (on.getD root, .leaf c)
  | _ => none

/-- The member that a call adds to a group, if it is about this group and succeeds. -/
def Call.addedTo? (root id : GroupId) (call : Call) : Option Member :=
  match call.addition? root with
  | some (goal, m) => if goal = id then some m else none
  | none => none

/-- The call is none that gives a group several members at once. -/
def Call.Stepwise : Call → Prop
  | .createFilled _ _ | .readGroup _ | .setMembers _ _ => False
  | _ => True

/-- The call assigns the members of a group. -/
def Call.Assigns (root id : GroupId) : Call → Prop
  | .setMembers on _ => on.getD root = id
  | _ => False

namespace Session

variable {s : Session} {call : Call} {id : GroupId} {m : Member} {cell : Cell}

/-- The call gives an answer. -/
def succeeds (s : Session) (call : Call) : Bool :=
  (s.perform call).2.result.isOk

/-- What a call does to the groups. -/
inductive Change (s : Session) : Call → Prop
  | none {call : Call} (same : (s.perform call).1.groups = s.groups)
      (failed : s.succeeds call = true → call.addition? s.query.root = none) : s.Change call
  | added {call : Call} {goal : GroupId} {m : Member}
      (adds : call.addition? s.query.root = some (goal, m))
      (stored : s.groups.add goal m = .ok (s.perform call).1.groups)
      (answered : s.succeeds call = true) : s.Change call
  | created {conjunction : Value} {known : Conjunction}
      (same : (s.perform (.createGroup conjunction)).1.groups = (s.groups.create ⟨known, []⟩).1)
      (answered : s.succeeds (.createGroup conjunction) = true) : s.Change (.createGroup conjunction)
  | filled {conjunction : Value} {members : MemberList} {id : GroupId}
      (made : s.createFilled conjunction members =
        .ok ((s.perform (.createFilled conjunction members)).1, id))
      (answered : s.succeeds (.createFilled conjunction members) = true) :
      s.Change (.createFilled conjunction members)
  | read {document : Value} {g : Group} (described : Group.ofDocument document = .ok g)
      (same : (s.perform (.readGroup document)).1.groups = (s.groups.insertGroup g).1)
      (answered : s.succeeds (.readGroup document) = true) : s.Change (.readGroup document)
  | assigned {on : Option GroupId} {members : MemberList}
      (made : s.assignMembers on members = .ok (s.perform (.setMembers on members)).1)
      (answered : s.succeeds (.setMembers on members) = true) : s.Change (.setMembers on members)

theorem kept_settle {groups : Store} {pending : List Pending} :
    groups.Kept (settle groups pending).1 := by
  induction pending generalizing groups with
  | nil => exact .refl
  | cons p rest ih =>
    cases p with
    | member m => exact ih
    | tree t => exact Store.kept_insert.trans ih

theorem assignMembers_eq_ok {changed : Session} {on : Option GroupId} {members : MemberList}
    (assigned : s.assignMembers on members = .ok changed) : ∃ items pending,
      members = .items items ∧ pendingFrom 0 items = .ok pending ∧ changed =
        { s with
          groups :=
            (settle s.groups pending).1.setMembers (s.target on) (settle s.groups pending).2 } := by
  unfold assignMembers at assigned
  cases read : pendingMembers members with
  | faults | stopped =>
    rw [read] at assigned
    cases assigned
  | ok pending =>
    rw [read] at assigned
    cases assigned
    cases members with
    | other v => cases read
    | items items => exact ⟨items, pending, rfl, Field.Checked.inside_eq_ok_iff.mp read, rfl⟩

theorem createFilled_eq_ok {changed : Session} {conjunction : Value} {members : MemberList}
    (created : s.createFilled conjunction members = .ok (changed, id)) : ∃ known,
      Conjunction.read conjunction = .ok known ∧ id = s.groups.cells.length ∧
        assignMembers { s with groups := (s.groups.create ⟨known, []⟩).1 } (some id) members =
          .ok changed := by
  unfold createFilled at created
  cases read : Conjunction.read conjunction with
  | error cause =>
    rw [read] at created
    cases created
  | ok known =>
    rw [read] at created
    obtain ⟨_, assigned, same⟩ := Result.map_eq_ok_iff.mp created
    cases same
    exact ⟨known, rfl, rfl, assigned⟩

theorem kept_createFilled {changed : Session} {conjunction : Value} {members : MemberList}
    (created : s.createFilled conjunction members = .ok (changed, id)) :
    s.groups.Kept changed.groups := by
  obtain ⟨known, _, rfl, assigned⟩ := createFilled_eq_ok created
  obtain ⟨items, pending, _, _, rfl⟩ := assignMembers_eq_ok assigned
  -- the members are those of the new group, which no group before it is
  intro other cell found
  have different : other ≠ s.groups.cells.length :=
    Nat.ne_of_lt (List.getElem?_eq_some_iff.mp found).1
  refine Store.cell?_setMembers.trans ((if_neg different).trans ?_)
  exact kept_settle other cell (Store.kept_create other cell found)

/-- A call that adds a member either puts it into its group or leaves the session as it was. -/
theorem perform_of_addition {goal : GroupId} (adds : call.addition? s.query.root = some (goal, m)) :
    s.perform call = s.change (match s.groups.add goal m with
      | .ok groups => .ok { s with groups }
      | .error cause => .error (.malformed cause)) := by
  cases call with
  | condition on field operator value =>
    cases field with
    | group other =>
      cases adds
      rfl
    | condition c => cases adds
    | value field =>
      cases composed : Condition.compose field operator value with
      | error refusal => simp [Call.addition?, composed] at adds
      | ok c =>
        simp only [Call.addition?, composed] at adds
        cases adds
        simp only [perform, addCondition, composed]
        rfl
  | add on member =>
    cases member with
    | value v => cases adds
    | group other =>
      cases adds
      rfl
    | condition c =>
      cases adds
      rfl
  | _ => cases adds

theorem perform_of_no_addition
    (adding : (∃ on field operator value, call = .condition on field operator value) ∨
      ∃ on member, call = .add on member)
    (nothing : call.addition? s.query.root = none) :
    (s.perform call).1 = s ∧ s.succeeds call = false := by
  rcases adding with ⟨on, field, operator, value, rfl⟩ | ⟨on, member, rfl⟩
  · cases field with
    | group other => cases nothing
    | condition c =>
      cases read : Operator.read operator with
      | error refusal =>
        simp only [succeeds, perform, addCondition, read]
        exact ⟨rfl, rfl⟩
      | ok op =>
        simp only [succeeds, perform, addCondition, read]
        exact ⟨rfl, rfl⟩
    | value field =>
      cases composed : Condition.compose field operator value with
      | error refusal =>
        simp only [succeeds, perform, addCondition, composed]
        exact ⟨rfl, rfl⟩
      | ok c => simp [Call.addition?, composed] at nothing
  · cases member with
    | value v => exact ⟨rfl, rfl⟩
    | group other => cases nothing
    | condition c => cases nothing

theorem change_of_addition {goal : GroupId}
    (adds : call.addition? s.query.root = some (goal, m)) : s.Change call := by
  have performed := perform_of_addition adds
  cases stored : s.groups.add goal m with
  | ok groups =>
    rw [stored] at performed
    refine .added adds ?_ (by rw [succeeds, performed]; rfl)
    rw [performed, stored]
    rfl
  | error cause =>
    rw [stored] at performed
    refine .none (by rw [performed]; rfl) ?_
    rw [succeeds, performed]
    intro answered
    cases answered

/-- Every call changes the groups in one of these ways. -/
theorem change_cases (s : Session) (call : Call) : s.Change call := by
  cases addition : call.addition? s.query.root with
  | some pair => exact change_of_addition addition
  | none =>
    cases call with
    | condition on field operator value =>
      have refused := perform_of_no_addition (.inl ⟨on, field, operator, value, rfl⟩) addition
      exact .none (congrArg groups refused.1) fun _ => addition
    | add on member =>
      have refused := perform_of_no_addition (.inr ⟨on, member, rfl⟩) addition
      exact .none (congrArg groups refused.1) fun _ => addition
    | createGroup conjunction =>
      cases read : Conjunction.read conjunction with
      | error cause => exact .none (by simp only [perform, read]) fun _ => rfl
      | ok known =>
        have same : (s.perform (.createGroup conjunction)).1.groups =
            (s.groups.create ⟨known, []⟩).1 := by
          simp only [perform, read]
        refine .created same ?_
        simp only [succeeds, perform, read]
        rfl
    | createFilled conjunction members =>
      cases created : s.createFilled conjunction members with
      | error failure => exact .none (by simp only [perform, created]) fun _ => rfl
      | ok result =>
        have made : s.createFilled conjunction members =
            .ok ((s.perform (.createFilled conjunction members)).1, result.2) := by
          simp only [perform, created]
        refine .filled made ?_
        simp only [succeeds, perform, created]
        rfl
    | readGroup document =>
      cases read : Group.ofDocument document with
      | error refusal => exact .none (by simp only [perform, read]) fun _ => rfl
      | ok g =>
        refine .read read ?_ ?_
        · simp only [perform, read]
        · simp only [succeeds, perform, read]
          rfl
    | setMembers on members =>
      cases assigned : s.assignMembers on members with
      | error failure => exact .none (by simp [perform, assigned, Session.change]) fun _ => rfl
      | ok changed =>
        refine .assigned ?_ ?_
        · simp [perform, assigned, Session.change]
        · simp only [succeeds, perform, assigned]
          rfl
    | sort field direction =>
      refine .none ?_ fun _ => rfl
      cases directed : s.query.sort field direction <;> simp [perform, directed, Session.change]
    | range start length =>
      refine .none ?_ fun _ => rfl
      cases directed : s.query.range start length <;> simp [perform, directed, Session.change]
    | setConjunction | setAttribute | count | compile | fetch | execute | executeClosing | close =>
      exact .none rfl fun _ => rfl

theorem groups_of_failed (failed : s.succeeds call = false) :
    (s.perform call).1.groups = s.groups := by
  cases change_cases s call with
  | none same _ => exact same
  | added _ _ answered | created _ answered | filled _ answered | read _ _ answered
  | assigned _ answered => cases failed.symm.trans answered

/-- The call, if it gives an answer. -/
def completed (s : Session) (call : Call) : List Call :=
  if s.succeeds call then [call] else []

private theorem completed_adds_nothing
    (nothing : s.succeeds call = true → call.addition? s.query.root = none) :
    (s.completed call).filterMap (Call.addedTo? s.query.root id) = [] := by
  unfold completed
  split
  · next answered => simp [Call.addedTo?, nothing answered]
  · rfl

/-- The conjunction of a group is kept by every call, and its members are kept in their places, followed
by what the call adds if it gives an answer, unless it assigns them. -/
theorem cell?_perform (call : Call) (found : s.groups.cell? id = some cell) :
    ∃ later, (s.perform call).1.groups.cell? id = some later ∧
      later.conjunction = cell.conjunction ∧
      ((∀ c ∈ s.completed call, ¬ c.Assigns s.query.root id) → later.members =
        cell.members ++ (s.completed call).filterMap (Call.addedTo? s.query.root id)) := by
  cases change_cases s call with
  | none same nothing =>
    rw [same, completed_adds_nothing nothing, List.append_nil]
    exact ⟨cell, found, rfl, fun _ => rfl⟩
  | @added _ goal m adds stored answered =>
    rw [Store.cell?_add stored, completed, if_pos answered]
    by_cases same : goal = id
    · rw [if_pos same.symm, same, found]
      exact ⟨_, rfl, rfl, fun _ => by simp [Call.addedTo?, adds, same]⟩
    · rw [if_neg (Ne.symm same)]
      exact ⟨cell, found, rfl, fun _ => by simp [Call.addedTo?, adds, same]⟩
  | created same _ =>
    rw [completed_adds_nothing fun _ => rfl, List.append_nil, same]
    exact ⟨cell, Store.kept_create id cell found, rfl, fun _ => rfl⟩
  | filled made _ =>
    rw [completed_adds_nothing fun _ => rfl, List.append_nil]
    exact ⟨cell, kept_createFilled made id cell found, rfl, fun _ => rfl⟩
  | read _ same _ =>
    rw [completed_adds_nothing fun _ => rfl, List.append_nil, same]
    exact ⟨cell, Store.kept_insertGroup id cell found, rfl, fun _ => rfl⟩
  | @assigned on members made answered =>
    obtain ⟨_, pending, _, _, same⟩ := assignMembers_eq_ok made
    have still : (settle s.groups pending).1.cell? id = some cell := kept_settle id cell found
    rw [completed_adds_nothing fun _ => rfl, List.append_nil, same, Store.cell?_setMembers]
    by_cases own : id = s.target on
    · rw [if_pos own, ← own, still]
      refine ⟨_, rfl, rfl, fun keeps => absurd own.symm (keeps (.setMembers on members) ?_)⟩
      rw [completed, if_pos answered]
      exact List.mem_singleton_self _
    · rw [if_neg own, still]
      exact ⟨cell, rfl, rfl, fun _ => rfl⟩

end Session

end SearchFilter
