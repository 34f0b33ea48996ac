import SearchFilter.Proofs.Session.Run

/-!
What calls leave as it is, in runs of any length. The conditions in the groups are of their operators'
shapes, and none is other than a call brought it. A group has the conjunction it was created with, and
keeps its members in their places until they are assigned.
-/

namespace SearchFilter

/-- The conjunction of the group that a call creates, if it succeeds. -/
def Call.conjunction? : Call → Option Conjunction
  | .createGroup conjunction | .createFilled conjunction _ =>
    match Conjunction.read conjunction with
    | .ok known => some known
    | .error _ => none
  | .readGroup document =>
    match Group.ofDocument document with
    | .ok g => some g.conjunction
    | .error _ => none
  | _ => none

namespace Session

variable {s changed : Session} {call : Call} {turns : List Turn} {on : Option GroupId} {id : GroupId}
  {cell : Cell} {m : Member} {item : Argument} {items : List Argument} {pending : List Pending}

/-- What a run from a session leaves as it is. -/
structure Preserves (s : Session) (turns : List Turn) : Prop where
  /-- Every condition is of its operator's shape. -/
  shaped : ∀ c, (s.run turns).groups.Holds c → c.WellShaped
  /-- Every condition was there before, or is one that a successful call brought. -/
  brought : ∀ c, (s.run turns).groups.Holds c →
    s.groups.Holds c ∨ ∃ call ∈ s.succeeded turns, c ∈ call.conditions
  /-- A group keeps its conjunction and its members, followed by what was added to it. -/
  kept : ∀ id cell, s.groups.cell? id = some cell →
    ∃ later, (s.run turns).groups.cell? id = some later ∧ later.conjunction = cell.conjunction ∧
      ((∀ c ∈ s.succeeded turns, ¬ c.Assigns s.query.root id) → later.members =
        cell.members ++ (s.succeeded turns).filterMap (Call.addedTo? s.query.root id))
  /-- A group that a call creates is a new one, and has the conjunction that was asked for. -/
  created : ∀ call id, (s.perform call).2.result = .ok (.group id) → s.groups.cell? id = none ∧
    ∃ later, ((s.perform call).1.run turns).groups.cell? id = some later ∧
      call.conjunction? = some later.conjunction
  /-- Conditions and groups that are assigned stand where they were given, unchanged. -/
  assigned : ∀ on items cell, s.groups.cell? (s.target on) = some cell →
    s.succeeds (.setMembers on (.items items)) = true →
    ∃ later, (s.perform (.setMembers on (.items items))).1.groups.cell? (s.target on) = some later ∧
      ∀ (i : Nat) item m, items[i]? = some item → memberOf item = .ok m → later.members[i]? = some m

theorem getElem?_pendingFrom {index i : Nat} (checked : pendingFrom index items = .ok pending)
    (given : items[i]? = some item) : ∃ p, pending[i]? = some p ∧ pendingOf item = .ok p := by
  induction items generalizing index i pending with
  | nil => cases given
  | cons first rest ih =>
    obtain ⟨p, later, head, tail, rfl⟩ := Field.Checked.seq_eq_ok_iff.mp checked
    cases i with
    | zero =>
      cases given
      exact ⟨p, rfl, Field.Checked.inside_eq_ok_iff.mp head⟩
    | succ i => exact ih (i := i) tail given

theorem getElem?_settle {groups : Store} {i : Nat} (waiting : pending[i]? = some (.member m)) :
    (settle groups pending).2[i]? = some m := by
  induction pending generalizing groups i with
  | nil => cases waiting
  | cons p rest ih =>
    cases i with
    | zero =>
      cases waiting
      rfl
    | succ i =>
      cases p with
      | member other => exact ih waiting
      | tree t => exact ih waiting

theorem pendingOf_of_memberOf (member : memberOf item = .ok m) : pendingOf item = .ok (.member m) := by
  cases item with
  | value v => cases member
  | group id | condition c =>
    cases member
    rfl

/-- Conditions and groups that are assigned stand where they were given. -/
theorem cell?_assigned (found : s.groups.cell? (s.target on) = some cell)
    (assigned : s.assignMembers on (.items items) = .ok changed) :
    ∃ later, changed.groups.cell? (s.target on) = some later ∧
      later.conjunction = cell.conjunction ∧
      ∀ (i : Nat) item m, items[i]? = some item → memberOf item = .ok m →
        later.members[i]? = some m := by
  obtain ⟨_, pending, ⟨rfl⟩, checked, rfl⟩ := assignMembers_eq_ok assigned
  have still : (settle s.groups pending).1.cell? (s.target on) = some cell :=
    kept_settle _ cell found
  refine ⟨{ cell with members := (settle s.groups pending).2 }, ?_, rfl, ?_⟩
  · rw [Store.cell?_setMembers, if_pos rfl, still, Option.map_some]
  · intro i item m given member
    obtain ⟨p, waiting, made⟩ := getElem?_pendingFrom checked given
    cases made.symm.trans (pendingOf_of_memberOf member)
    exact getElem?_settle waiting

private theorem answer_change {result : Except Failure Session} {answer : Answer}
    (answered : (s.change result).2.result = .ok answer) : answer = .done := by
  cases result with
  | ok changed =>
    cases answered
    rfl
  | error failure => cases answered

private theorem answer_withClient {α : Type} {run : Client × Trace Event α} {f : α → Answer}
    {answer : Answer} (answered : (s.withClient run f).2.result = .ok answer) :
    ∃ a, answer = f a := by
  rw [withClient, Trace.result_bind] at answered
  obtain ⟨a, _, same⟩ := Result.bind_eq_ok_iff.mp answered
  cases same
  exact ⟨a, rfl⟩

theorem cell?_created (answered : (s.perform call).2.result = .ok (.group id)) :
    s.groups.cell? id = none ∧ ∃ cell, (s.perform call).1.groups.cell? id = some cell ∧
      call.conjunction? = some cell.conjunction := by
  cases call with
  | createGroup conjunction =>
    cases read : Conjunction.read conjunction with
    | error cause =>
      simp only [perform, read] at answered
      cases answered
    | ok known =>
      simp only [perform, read] at answered ⊢
      cases answered
      exact ⟨List.getElem?_eq_none (Nat.le_refl _), _, Store.cell?_create,
        by simp only [Call.conjunction?, read]⟩
  | createFilled conjunction members =>
    cases created : s.createFilled conjunction members with
    | error failure =>
      simp only [perform, created] at answered
      cases answered
    | ok result =>
      obtain ⟨changed, new⟩ := result
      obtain ⟨known, read, rfl, assigned⟩ := createFilled_eq_ok created
      -- an empty group was created, and its members were assigned then
      obtain ⟨items, _, rfl, _, _⟩ := assignMembers_eq_ok assigned
      obtain ⟨later, found, same, _⟩ := cell?_assigned Store.cell?_create assigned
      simp only [perform, created] at answered ⊢
      cases answered
      refine ⟨List.getElem?_eq_none (Nat.le_refl _), later, found, ?_⟩
      simp only [Call.conjunction?, read, same]
  | readGroup document =>
    cases read : Group.ofDocument document with
    | error refusal =>
      simp only [perform, read] at answered
      cases answered
    | ok g =>
      simp only [perform, read] at answered ⊢
      cases answered
      refine ⟨List.getElem?_eq_none Store.prefix_insertAll.length_le, _, Store.cell?_create, ?_⟩
      simp only [Call.conjunction?, read]
  | condition | add | setMembers | sort | range => cases answer_change answered
  | fetch | execute | executeClosing | close =>
    obtain ⟨a, same⟩ := answer_withClient answered
    cases same
  | compile =>
    unfold perform at answered
    rw [Trace.result_bind] at answered
    obtain ⟨r, _, same⟩ := Result.bind_eq_ok_iff.mp answered
    cases same
  | setConjunction | setAttribute | count => cases answered

/-- Whatever calls follow on a session, each condition keeps its three parts and its shape, and each
group the conjunction that it was created with. -/
theorem preserves_run (reachable : s.Reachable) (sound : ∀ t ∈ turns, t.call.Sound) :
    s.Preserves turns where
  shaped := by
    have accepted := Store.sound_iff_every.mp (reachable.run sound).sound
    exact fun c held => Condition.accepted_iff_wellShaped.mp (Store.every_iff.mp accepted c held)
  brought := by
    refine Store.every_iff.mp (every_run (fun call member c inside => ?_) ?_)
    · exact .inr ⟨call, member, inside⟩
    · exact Store.every_iff.mpr fun c held => .inl held
  kept := fun id cell found => cell?_run turns found
  created := by
    intro call id answered
    obtain ⟨missing, cell, found, asked⟩ := cell?_created answered
    obtain ⟨later, still, same, _⟩ := cell?_run turns found
    exact ⟨missing, later, still, by rw [same, asked]⟩
  assigned := by
    intro on items cell found answered
    cases assigned : s.assignMembers on (.items items) with
    | error failure =>
      rw [succeeds, perform, assigned] at answered
      cases answered
    | ok changed =>
      obtain ⟨later, still, _, placed⟩ := cell?_assigned found assigned
      simp only [perform, assigned]
      exact ⟨later, still, placed⟩

/-- A condition and a record are assigned to a group in place of what it had, a document is read, and
three of the calls fail. -/
def mixedCalls : List Turn :=
  [.createGroup (.conjunction .or),
    .condition (some 1) (.value (.text "body")) (.operator .isNull) .null, .add none (.group 1),
    .condition (some 1) (.value (.text " ")) .null .null,
    .setMembers (some 1) (.items [.condition ⟨"size", .eq, .int 3⟩, .value (.map [
      (.text "field", .text "tag"), (.text "operator", .text "IN"),
      (.text "value", .list [.text "b"])])]),
    .setConjunction (some 1) (.conjunction .and),
    .setAttribute ⟨"size", .eq, .int 3⟩ "value" (.int 4),
    .readGroup (.map [(.text "conditions", .list [.map [(.text "field", .text "title"),
      (.text "value", .text "a")]])])].map fun call => ⟨call, .vacant, true⟩

theorem preserves_run_mixed :
    overNodes.Preserves mixedCalls ∧ (overNodes.run mixedCalls).groups.cells =
      [⟨.and, [.group 1]⟩,
        ⟨.or, [.leaf ⟨"size", .eq, .int 3⟩, .leaf ⟨"tag", .isIn, .tuple [.text "b"]⟩]⟩,
        ⟨.and, [.leaf ⟨"title", .eq, .text "a"⟩]⟩] := by
  have accepted : Condition.Accepted ⟨"size", .eq, .int 3⟩ :=
    ⟨.text "size", .operator .eq, .int 3, rfl⟩
  have sound : ∀ t ∈ mixedCalls, t.call.Sound := by
    simp [mixedCalls, Call.Sound, Argument.Sound, accepted]
  exact ⟨preserves_run new_overNodes.reachable sound, rfl⟩

end Session

end SearchFilter
