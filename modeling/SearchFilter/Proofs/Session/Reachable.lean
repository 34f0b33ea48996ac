import SearchFilter.Proofs.Document.RoundTrip
import SearchFilter.Proofs.Record.Accepted
import SearchFilter.Proofs.Session.Change
import SearchFilter.Proofs.Store.Soundness

namespace SearchFilter

/-- An argument that, if it is a condition, is an accepted one. -/
def Argument.Sound : Argument → Prop
  | .condition c => c.Accepted
  | _ => True

/-- The conditions of an argument that becomes a member: it is one, or a record of some. -/
def Argument.conditions : Argument → List Condition
  | .condition c => [c]
  | .value v => match Record.member v with
    | .ok reading => reading.tree.conditions
    | _ => []
  | .group _ => []

/-- The conditions that a call brings to the groups, if it succeeds. -/
def Call.conditions : Call → List Condition
  | .condition _ (.value field) operator value =>
    match Condition.compose field operator value with
    | .ok c => [c]
    | .error _ => []
  | .add _ (.condition c) => [c]
  | .setMembers _ (.items items) | .createFilled _ (.items items) => items.flatMap Argument.conditions
  | .readGroup document => match Group.ofDocument document with
    | .ok g => g.conditions
    | .error _ => []
  | _ => []

/-- A call that hands over accepted conditions only. -/
def Call.Sound : Call → Prop
  | .add _ member => member.Sound
  | .setMembers _ (.items items) | .createFilled _ (.items items) => ∀ item ∈ items, item.Sound
  | _ => True

namespace Session

variable {P : Condition → Prop} {s changed : Session} {on : Option GroupId} {call : Call}
  {entityType conjunction : Value} {settings : Option Settings}

theorem accepted_of_argument {item : Argument} (sound : item.Sound) :
    ∀ c ∈ item.conditions, c.Accepted := by
  cases item with
  | group id => exact List.forall_mem_nil _
  | condition c => exact List.forall_mem_singleton.mpr sound
  | value v =>
    cases read : Record.member v with
    | ok reading =>
      simp only [Argument.conditions, read]
      exact Record.sound_member v reading read
    | faults details => simp [Argument.conditions, read]
    | stopped failure => simp [Argument.conditions, read]

private theorem accepted_of_arguments {items : List Argument} (sound : ∀ item ∈ items, item.Sound) :
    ∀ c ∈ items.flatMap Argument.conditions, c.Accepted := by
  intro c inside
  obtain ⟨item, member, inside⟩ := List.mem_flatMap.mp inside
  exact accepted_of_argument (sound item member) c inside

/-- Whatever conditions a call makes itself are accepted, so with sound arguments all it brings are. -/
theorem accepted_of_sound (sound : call.Sound) : ∀ c ∈ call.conditions, c.Accepted := by
  cases call with
  | condition on field operator value =>
    cases field with
    | group id | condition c => exact List.forall_mem_nil _
    | value field =>
      cases made : Condition.compose field operator value with
      | error refusal => simp [Call.conditions, made]
      | ok c =>
        simp only [Call.conditions, made]
        exact List.forall_mem_singleton.mpr (Condition.accepted_of_compose made)
  | add on member =>
    cases member with
    | group id | value v => exact List.forall_mem_nil _
    | condition c => exact List.forall_mem_singleton.mpr sound
  | setMembers on members =>
    cases members with
    | items items => exact accepted_of_arguments sound
    | other v => exact List.forall_mem_nil _
  | createFilled conjunction members =>
    cases members with
    | items items => exact accepted_of_arguments sound
    | other v => exact List.forall_mem_nil _
  | readGroup document =>
    cases read : Group.ofDocument document with
    | error refusal => simp [Call.conditions, read]
    | ok g =>
      simp only [Call.conditions, read]
      exact Group.accepted_of_ofDocument read
  | _ => exact List.forall_mem_nil _

/-- The sessions that begin with a new query and go on by calls, while the cluster may come to answer
otherwise and its driver may come and go. -/
inductive Reachable : Session → Prop
  | make {entityType conjunction : Value} {settings : Option Settings} {client : Client}
      {installed : Bool} {s : Session}
      (made : Session.make entityType conjunction settings client installed = .ok s) : Reachable s
  | perform {s : Session} (earlier : Reachable s) (call : Call) (sound : call.Sound) :
      Reachable (s.perform call).1
  | surround {s : Session} (earlier : Reachable s) (cluster : Cluster) (installed : Bool) :
      Reachable { s with cluster, installed }

/-- The session is a new one, over whatever client. -/
def New (entityType conjunction : Value) (settings : Option Settings) (s : Session) : Prop :=
  ∃ client installed, make entityType conjunction settings client installed = .ok s

theorem New.reachable (new : New entityType conjunction settings s) : s.Reachable := by
  obtain ⟨client, installed, made⟩ := new
  exact .make made

theorem queryMake_eq_ok {groups made : Store} {q : Query}
    (result : Query.make groups entityType conjunction settings = .ok (made, q)) : ∃ known,
      Conjunction.read conjunction = .ok known ∧ made = (groups.create ⟨known, []⟩).1 ∧
        q = ⟨entityType, (groups.create ⟨known, []⟩).2, [], none, .bool false, q.compiler⟩ := by
  unfold Query.make at result
  dsimp only at result
  split at result
  · cases result
  · split at result
    · next known read =>
      split at result
      · obtain ⟨_, same, result⟩ := Result.bind_eq_ok_iff.mp result
        obtain ⟨compiler, _, result⟩ := Result.bind_eq_ok_iff.mp result
        cases same
        cases result
        exact ⟨known, read, rfl, rfl⟩
      · cases result
        exact ⟨known, read, rfl, rfl⟩
    · cases result

theorem queryMake_of_new (new : New entityType conjunction settings s) :
    Query.make .empty entityType conjunction settings = .ok (s.groups, s.query) := by
  obtain ⟨client, installed, made⟩ := new
  obtain ⟨⟨groups, q⟩, result, same⟩ := Result.bind_eq_ok_iff.mp made
  cases same
  exact result

theorem every_of_addition {root goal : GroupId} {m : Member} (given : ∀ c ∈ call.conditions, P c)
    (adds : call.addition? root = some (goal, m)) : m.Every P := by
  cases m with
  | group id => exact trivial
  | leaf c =>
    refine given c ?_
    cases call with
    | condition on field operator value =>
      cases field with
      | group id | condition c => cases adds
      | value field =>
        cases composed : Condition.compose field operator value with
        | error refusal => simp [Call.addition?, composed] at adds
        | ok known =>
          simp only [Call.addition?, composed] at adds
          cases adds
          simp [Call.conditions, composed]
    | add on member =>
      cases member with
      | group id | value v => cases adds
      | condition c =>
        cases adds
        exact List.mem_singleton_self _
    | _ => cases adds

/-- A member that is to be assigned, with conditions that have a property. -/
def Pending.Every (P : Condition → Prop) : Pending → Prop
  | .tree t => ∀ c ∈ t.conditions, P c
  | .member m => m.Every P

theorem every_pendingOf {member : Argument} {pending : Pending}
    (given : ∀ c ∈ member.conditions, P c) (made : pendingOf member = .ok pending) :
    pending.Every P := by
  cases member with
  | group id =>
    cases made
    exact trivial
  | condition c =>
    cases made
    exact given c List.mem_cons_self
  | value v =>
    obtain ⟨reading, read, rfl⟩ := Field.Checked.map_eq_ok_iff.mp made
    simp only [Argument.conditions, read] at given
    exact given

theorem every_pendingFrom {index : Nat} {items : List Argument} {pending : List Pending}
    (given : ∀ item ∈ items, ∀ c ∈ item.conditions, P c)
    (made : pendingFrom index items = .ok pending) : ∀ p ∈ pending, p.Every P := by
  induction items generalizing index pending with
  | nil =>
    cases made
    exact List.forall_mem_nil _
  | cons item rest ih =>
    obtain ⟨first, later, head, tail, rfl⟩ := Field.Checked.seq_eq_ok_iff.mp made
    obtain ⟨givenItem, givenRest⟩ := List.forall_mem_cons.mp given
    exact List.forall_mem_cons.mpr
      ⟨every_pendingOf givenItem (Field.Checked.inside_eq_ok_iff.mp head), ih givenRest tail⟩

theorem every_settle {groups : Store} {pending : List Pending} (every : groups.Every P)
    (each : ∀ p ∈ pending, p.Every P) :
    (settle groups pending).1.Every P ∧ ∀ m ∈ (settle groups pending).2, m.Every P := by
  induction pending generalizing groups with
  | nil => exact ⟨every, List.forall_mem_nil _⟩
  | cons p rest ih =>
    obtain ⟨first, later⟩ := List.forall_mem_cons.mp each
    cases p with
    | member m =>
      obtain ⟨stored, members⟩ := ih every later
      exact ⟨stored, List.forall_mem_cons.mpr ⟨first, members⟩⟩
    | tree t =>
      obtain ⟨inserted, member⟩ := Store.every_insert first every
      obtain ⟨stored, members⟩ := ih inserted later
      exact ⟨stored, List.forall_mem_cons.mpr ⟨member, members⟩⟩

theorem every_assignMembers {members : MemberList} (every : s.groups.Every P)
    (given : ∀ c ∈ (Call.setMembers on members).conditions, P c)
    (assigned : s.assignMembers on members = .ok changed) : changed.groups.Every P := by
  obtain ⟨items, pending, rfl, read, rfl⟩ := assignMembers_eq_ok assigned
  have each : ∀ item ∈ items, ∀ c ∈ item.conditions, P c := fun item member c inside =>
    given c (List.mem_flatMap.mpr ⟨item, member, inside⟩)
  obtain ⟨stored, members⟩ := every_settle every (every_pendingFrom each read)
  exact Store.every_setMembers stored members

theorem every_createFilled {conjunction : Value} {members : MemberList} {id : GroupId}
    (every : s.groups.Every P)
    (given : ∀ c ∈ (Call.createFilled conjunction members).conditions, P c)
    (created : s.createFilled conjunction members = .ok (changed, id)) : changed.groups.Every P := by
  obtain ⟨known, _, _, assigned⟩ := createFilled_eq_ok created
  refine every_assignMembers (Store.every_create_empty every) ?_ assigned
  cases members <;> exact given

/-- A call leaves a property of all conditions in the groups true, if it holds of those that the call
brings. -/
theorem every_perform (given : ∀ c ∈ call.conditions, P c) (every : s.groups.Every P) :
    (s.perform call).1.groups.Every P := by
  cases change_cases s call with
  | none same _ => exact same ▸ every
  | added adds stored _ => exact Store.every_add every (every_of_addition given adds) stored
  | created same _ => exact same ▸ Store.every_create_empty every
  | filled made _ => exact every_createFilled every given made
  | read described same _ =>
    simp only [Call.conditions, described] at given
    exact same ▸ Store.every_insertGroup given every
  | assigned made _ => exact every_assignMembers every given made

/-- In every session that calls lead to, the conditions in the groups were accepted. -/
theorem Reachable.sound (reachable : s.Reachable) : s.groups.Sound := by
  refine Store.sound_iff_every.mpr ?_
  induction reachable with
  | make made =>
    obtain ⟨known, _, begins, _⟩ := queryMake_eq_ok (queryMake_of_new ⟨_, _, made⟩)
    exact begins ▸ Store.every_create_empty Store.every_empty
  | perform _ _ given ih => exact every_perform (accepted_of_sound given) ih
  | surround _ _ _ ih => exact ih

end Session

end SearchFilter
