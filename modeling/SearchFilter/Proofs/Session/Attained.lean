import SearchFilter.Proofs.Session.Directive
import SearchFilter.Proofs.Session.Nesting

namespace SearchFilter

/-- The group that an argument is. -/
def Argument.named : Argument → List GroupId
  | .group id => [id]
  | _ => []

def MemberList.named : MemberList → List GroupId
  | .items given => given.flatMap Argument.named
  | .other _ => []

/-- The groups that a call names. -/
def Call.named : Call → List GroupId
  | .condition on field _ _ => on.toList ++ field.named
  | .add on member => on.toList ++ member.named
  | .setMembers on members => on.toList ++ members.named
  | .createFilled _ members => members.named
  | .setConjunction on _ => on.toList
  | _ => []

namespace Session

variable {s changed : Session} {call : Call} {on : Option GroupId} {goal inner : GroupId} {m : Member}

/-- Every group that the call names is in the store. -/
def Present (s : Session) (call : Call) : Prop :=
  ∀ id ∈ call.named, id < s.groups.cells.length

instance : Decidable (s.Present call) :=
  inferInstanceAs (Decidable (∀ id ∈ call.named, id < s.groups.cells.length))

/-- Every call of a run names groups that are in the store when it is made. -/
def PresentAll (s : Session) : List Turn → Prop
  | [] => True
  | t :: rest => s.Present t.call ∧ (s.take t).PresentAll rest

/-- The sessions that begin with a new query and go on by calls on groups that are there, while the
cluster may come to answer otherwise and its driver may come and go. -/
inductive Attained : Session → Prop
  | make {entityType conjunction : Value} {settings : Option Settings} {client : Client}
      {installed : Bool} {s : Session}
      (made : Session.make entityType conjunction settings client installed = .ok s) : Attained s
  | perform {s : Session} (earlier : Attained s) (call : Call) (present : s.Present call) :
      Attained (s.perform call).1
  | surround {s : Session} (earlier : Attained s) (cluster : Cluster) (installed : Bool) :
      Attained { s with cluster, installed }

/-- The root of the query and every member that is a group are in the store. -/
structure Grounded (s : Session) : Prop where
  rooted : s.query.root < s.groups.cells.length
  closed : s.groups.Closed

theorem Grounded.target (grounded : s.Grounded) (present : ∀ id ∈ on.toList, id < s.groups.cells.length) :
    s.target on < s.groups.cells.length := by
  cases on with
  | none => exact grounded.rooted
  | some id => exact present id (List.mem_singleton_self id)

/-- A call that adds a member names the group that gets it, unless it is the root, and the one that is
added. -/
theorem Grounded.knows (grounded : s.Grounded) (present : s.Present call) : s.Knows call := by
  intro goal m adds
  cases call with
  | condition on field operator value =>
    obtain ⟨target, named⟩ := List.forall_mem_append.mp present
    cases field with
    | group id =>
      cases adds
      refine ⟨grounded.target target, ?_⟩
      rintro _ ⟨rfl⟩
      exact named id (List.mem_singleton_self id)
    | condition c => cases adds
    | value field =>
      cases composed : Condition.compose field operator value with
      | error refusal => simp [Call.addition?, composed] at adds
      | ok c =>
        simp only [Call.addition?, composed] at adds
        cases adds
        refine ⟨grounded.target target, ?_⟩
        rintro _ ⟨⟩
  | add on member =>
    obtain ⟨target, named⟩ := List.forall_mem_append.mp present
    cases member with
    | value v => cases adds
    | group id =>
      cases adds
      refine ⟨grounded.target target, ?_⟩
      rintro _ ⟨rfl⟩
      exact named id (List.mem_singleton_self id)
    | condition c =>
      cases adds
      refine ⟨grounded.target target, ?_⟩
      rintro _ ⟨⟩
  | _ => cases adds

theorem named_of_pendingFrom {index : Nat} {items : List Argument} {pending : List Pending}
    (made : pendingFrom index items = .ok pending) (waits : .member (.group inner) ∈ pending) :
    inner ∈ items.flatMap Argument.named := by
  induction items generalizing index pending with
  | nil =>
    cases made
    cases waits
  | cons item rest ih =>
    obtain ⟨first, later, head, tail, rfl⟩ := Field.Checked.seq_eq_ok_iff.mp made
    rw [List.flatMap_cons, List.mem_append]
    rcases List.mem_cons.mp waits with rfl | waits
    · left
      have read := Field.Checked.inside_eq_ok_iff.mp head
      cases item with
      | group id =>
        cases read
        exact List.mem_singleton_self _
      | condition c => cases read
      | value v =>
        obtain ⟨_, _, foreign⟩ := Field.Checked.map_eq_ok_iff.mp read
        cases foreign
    · exact .inr (ih tail waits)

theorem closed_settle {groups : Store} {pending : List Pending} (closed : groups.Closed)
    (known : ∀ inner, .member (.group inner) ∈ pending → inner < groups.cells.length) :
    (settle groups pending).1.Closed ∧ groups.cells.length ≤ (settle groups pending).1.cells.length ∧
      ∀ inner, .group inner ∈ (settle groups pending).2 →
        inner < (settle groups pending).1.cells.length := by
  induction pending generalizing groups with
  | nil => exact ⟨closed, Nat.le_refl _, fun _ member => nomatch member⟩
  | cons p rest ih =>
    cases p with
    | member m =>
      obtain ⟨stays, grown, members⟩ :=
        ih closed fun inner waits => known inner (List.mem_cons_of_mem _ waits)
      refine ⟨stays, grown, fun inner member => ?_⟩
      rcases List.mem_cons.mp member with rfl | member
      · exact Nat.lt_of_lt_of_le (known inner List.mem_cons_self) grown
      · exact members inner member
    | tree t =>
      have larger : groups.cells.length ≤ (groups.insert t).1.cells.length :=
        Store.prefix_insert.length_le
      obtain ⟨stays, grown, members⟩ := ih (Store.closed_insert closed) fun inner waits =>
        Nat.lt_of_lt_of_le (known inner (List.mem_cons_of_mem _ waits)) larger
      refine ⟨stays, Nat.le_trans larger grown, fun inner member => ?_⟩
      rcases List.mem_cons.mp member with first | member
      · exact Nat.lt_of_lt_of_le (Store.lt_of_insert first.symm) grown
      · exact members inner member

theorem closed_assignMembers {members : MemberList} (closed : s.groups.Closed)
    (present : ∀ id ∈ members.named, id < s.groups.cells.length)
    (assigned : s.assignMembers on members = .ok changed) :
    changed.groups.Closed ∧ s.groups.cells.length ≤ changed.groups.cells.length := by
  obtain ⟨items, pending, rfl, made, rfl⟩ := assignMembers_eq_ok assigned
  obtain ⟨stays, grown, members⟩ := closed_settle closed fun inner waits =>
    present inner (named_of_pendingFrom made waits)
  exact ⟨Store.closed_setMembers stays members, grown.trans_eq Store.length_setMembers.symm⟩

/-- A call on groups that are there leaves a closed store, with no fewer groups. -/
theorem closed_perform (grounded : s.Grounded) (present : s.Present call) :
    (s.perform call).1.groups.Closed ∧
      s.groups.cells.length ≤ (s.perform call).1.groups.cells.length := by
  cases change_cases s call with
  | none same _ =>
    rw [same]
    exact ⟨grounded.closed, Nat.le_refl _⟩
  | @added _ goal m adds stored _ =>
    obtain ⟨there, known⟩ := grounded.knows present goal m adds
    have found : s.groups.cell? goal = some _ := List.getElem?_eq_getElem there
    exact ⟨Store.closed_add grounded.closed found known stored, (Store.length_add stored).ge⟩
  | created same _ =>
    rw [same]
    exact ⟨Store.closed_create_empty grounded.closed, (List.prefix_append _ _).length_le⟩
  | filled made _ =>
    obtain ⟨known, _, _, assigned⟩ := createFilled_eq_ok made
    have larger := (List.prefix_append s.groups.cells [⟨known, []⟩]).length_le
    obtain ⟨stays, grown⟩ := closed_assignMembers (Store.closed_create_empty grounded.closed)
      (fun id named => Nat.lt_of_lt_of_le (present id named) larger) assigned
    exact ⟨stays, Nat.le_trans larger grown⟩
  | read _ same _ =>
    rw [same]
    exact ⟨Store.closed_insertGroup grounded.closed,
      Nat.le_trans Store.prefix_insertAll.length_le (List.prefix_append _ _).length_le⟩
  | assigned made _ =>
    obtain ⟨_, named⟩ := List.forall_mem_append.mp present
    exact closed_assignMembers grounded.closed named made

theorem Attained.grounded (attained : s.Attained) : s.Grounded := by
  induction attained with
  | make made =>
    obtain ⟨known, _, begins, query⟩ := queryMake_eq_ok (queryMake_of_new ⟨_, _, made⟩)
    refine ⟨?_, ?_⟩
    · rw [query, begins]
      exact Nat.lt_succ_self _
    · rw [begins]
      refine Store.closed_create_empty fun outer inner contains => ?_
      exact absurd (Store.lt_of_contains contains) (Nat.not_lt_zero outer)
  | @perform s _ call present ih =>
    obtain ⟨closed, grown⟩ := closed_perform ih present
    refine ⟨?_, closed⟩
    rw [query_perform]
    exact Nat.lt_of_lt_of_le ih.rooted grown
  | surround _ _ _ ih => exact ⟨ih.rooted, ih.closed⟩

theorem Attained.run {turns : List Turn} (attained : s.Attained) (present : s.PresentAll turns) :
    (s.run turns).Attained := by
  induction turns generalizing s with
  | nil => exact attained
  | cons t rest ih =>
    obtain ⟨first, later⟩ := present
    exact ih ((attained.surround t.cluster t.installed).perform t.call first) later

theorem attained_overNodes : overNodes.Attained := by
  obtain ⟨client, installed, made⟩ := new_overNodes
  exact .make made

/-- Two new groups, the second of which is put into the first and into the root, and gets a condition
only then. -/
def sharedCalls : List Turn :=
  [.createGroup (.conjunction .or), .createGroup (.conjunction .and), .add (some 1) (.group 2),
    .add none (.group 2), .add none (.group 1),
    .condition (some 2) (.value (.text "body")) (.operator .isNull) .null].map
      fun call => ⟨call, .vacant, true⟩

theorem attained_run_shared : (overNodes.run sharedCalls).Attained :=
  attained_overNodes.run ⟨by decide, by decide, by decide, by decide, by decide, by decide, trivial⟩

end Session

end SearchFilter
