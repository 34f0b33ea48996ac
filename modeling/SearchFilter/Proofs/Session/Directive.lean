import SearchFilter.Proofs.Session.Change

namespace SearchFilter

/-- The order of hits that a call gives, if it succeeds. -/
def Call.order? : Call → Option HitOrder
  | .sort field direction =>
    match HitOrder.ofEntries [(.text "field", field), (.text "direction", Query.directionOf direction)]
    with
    | .ok order => some order
    | _ => none
  | _ => none

/-- The window that a call sets, if it succeeds. Without any part of one it sets none. -/
def Call.window? : Call → Option (Option Window)
  | .range .null .null => some none
  | .range start length =>
    match Window.ofEntries [(.text "start", start), (.text "length", length)] with
    | .ok window => some (some window)
    | _ => none
  | _ => none

/-- What a call says about counting. -/
def Call.count? : Call → Option Value
  | .count value => some value
  | _ => none

/-- The query after calls that succeeded. -/
def Query.after (q : Query) (calls : List Call) : Query :=
  { q with
    orders := q.orders ++ calls.filterMap Call.order?
    window := (calls.filterMap Call.window?).getLast?.getD q.window
    count := (calls.filterMap Call.count?).getLast?.getD q.count }

namespace Query

variable {q changed : Query} {call : Call}

@[simp] theorem after_nil : q.after [] = q := by
  simp [after]

theorem after_single : q.after [call] =
    { q with
      orders := q.orders ++ call.order?.toList
      window := call.window?.getD q.window
      count := call.count?.getD q.count } := by
  cases ordered : call.order? <;> cases bounded : call.window? <;> cases counted : call.count? <;>
    simp [after, ordered, bounded, counted]

theorem after_silent (unordered : call.order? = none) (unbounded : call.window? = none)
    (uncounted : call.count? = none) : q.after [call] = q := by
  rw [after_single, unordered, unbounded, uncounted]
  simp

private theorem last_append {α : Type} {f : Call → Option α} {calls later : List Call} {a : α} :
    ((calls ++ later).filterMap f).getLast?.getD a =
      (later.filterMap f).getLast?.getD ((calls.filterMap f).getLast?.getD a) := by
  rw [List.filterMap_append, List.getLast?_append]
  cases (later.filterMap f).getLast? <;> rfl

theorem after_append {calls later : List Call} :
    q.after (calls ++ later) = (q.after calls).after later := by
  unfold after
  rw [last_append, last_append, List.filterMap_append, List.append_assoc]

/-- The order that a sort directive gives, or why it gives none. -/
def orderOf (field direction : Value) : Except Failure HitOrder :=
  match HitOrder.ofEntries [(.text "field", field), (.text "direction", directionOf direction)] with
  | .ok order => .ok order
  | .faults details => .error (BuildFault.invalidSort field ⟨"SortSpec", details⟩).toFailure
  | .stopped failure => .error failure

/-- The window that a range directive sets, if any, or why it is refused. -/
def windowOf (start length : Value) : Except Failure (Option Window) :=
  match start, length with
  | .null, .null => .ok none
  | _, _ => match Window.ofEntries [(.text "start", start), (.text "length", length)] with
    | .ok window => .ok (some window)
    | .faults details => .error (BuildFault.invalidRange start length ⟨"RangeSpec", details⟩).toFailure
    | .stopped failure => .error failure

/-- A sort directive is read before anything is written. -/
theorem sort_eq_map {field direction : Value} : q.sort field direction =
    (orderOf field direction).map fun order => { q with orders := q.orders ++ [order] } := by
  unfold sort orderOf
  cases read : HitOrder.ofEntries
    [(.text "field", field), (.text "direction", directionOf direction)] <;> simp [read]

theorem range_eq_map {start length : Value} : q.range start length =
    (windowOf start length).map fun window => { q with window } := by
  unfold range windowOf
  split
  · rfl
  · cases Window.ofEntries [(.text "start", start), (.text "length", length)] <;> simp

theorem sort_eq_ok {field direction : Value} (sorted : q.sort field direction = .ok changed) :
    changed = q.after [.sort field direction] := by
  unfold sort at sorted
  cases read : HitOrder.ofEntries
      [(.text "field", field), (.text "direction", directionOf direction)] with
  | ok order =>
    simp only [read] at sorted
    cases sorted
    rw [after_single]
    simp [Call.order?, Call.window?, Call.count?, read]
  | faults details => simp [read] at sorted
  | stopped failure => simp [read] at sorted

theorem range_eq_ok {start length : Value} (ranged : q.range start length = .ok changed) :
    changed = q.after [.range start length] := by
  unfold range at ranged
  split at ranged
  · cases ranged
    rw [after_single]
    simp [Call.order?, Call.window?, Call.count?]
  · next given =>
    cases read : Window.ofEntries [(.text "start", start), (.text "length", length)] with
    | ok window =>
      simp only [read] at ranged
      cases ranged
      rw [after_single]
      simp [Call.order?, Call.window?, Call.count?, read]
    | faults details => simp [read] at ranged
    | stopped failure => simp [read] at ranged

end Query

namespace Session

variable {s changed : Session} {call : Call}

private theorem query_of_silent (silent : s.query.after [call] = s.query)
    (kept : (s.perform call).1.query = s.query) :
    (s.perform call).1.query = s.query.after (s.completed call) := by
  rw [kept, completed]
  split
  · exact silent.symm
  · exact Query.after_nil.symm

private theorem query_of_change {result : Except Failure Session}
    (performed : s.perform call = s.change result)
    (made : ∀ changed, result = .ok changed → changed.query = s.query.after [call]) :
    (s.perform call).1.query = s.query.after (s.completed call) := by
  rw [completed, succeeds, performed]
  cases result with
  | ok changed => exact made changed rfl
  | error failure => exact Query.after_nil.symm

private theorem query_of_addition
    (adding : (∃ on field operator value, call = .condition on field operator value) ∨
      ∃ on member, call = .add on member) : (s.perform call).1.query = s.query := by
  cases addition : call.addition? s.query.root with
  | none => exact congrArg query (perform_of_no_addition adding addition).1
  | some pair =>
    rw [perform_of_addition addition]
    cases s.groups.add pair.1 pair.2 <;> rfl

private theorem query_createFilled {conjunction : Value} {members : MemberList} {id : GroupId}
    (created : s.createFilled conjunction members = .ok (changed, id)) :
    changed.query = s.query := by
  obtain ⟨_, _, _, assigned⟩ := createFilled_eq_ok created
  obtain ⟨_, _, _, _, rfl⟩ := assignMembers_eq_ok assigned
  rfl

/-- The query after a call is the one that the call describes, if it succeeds, and else unchanged. -/
theorem query_perform (s : Session) (call : Call) :
    (s.perform call).1.query = s.query.after (s.completed call) := by
  cases call with
  | condition on field operator value =>
    have kept := query_of_addition (s := s) (.inl ⟨on, field, operator, value, rfl⟩)
    exact query_of_silent (Query.after_silent rfl rfl rfl) kept
  | add on member =>
    have kept := query_of_addition (s := s) (.inr ⟨on, member, rfl⟩)
    exact query_of_silent (Query.after_silent rfl rfl rfl) kept
  | setMembers on members =>
    refine query_of_change rfl fun changed assigned => ?_
    obtain ⟨_, _, _, _, rfl⟩ := assignMembers_eq_ok assigned
    exact (Query.after_silent rfl rfl rfl).symm
  | sort field direction =>
    refine query_of_change rfl fun changed sorted => ?_
    obtain ⟨q, directed, rfl⟩ := Result.map_eq_ok_iff.mp sorted
    exact Query.sort_eq_ok directed
  | range start length =>
    refine query_of_change rfl fun changed ranged => ?_
    obtain ⟨q, directed, rfl⟩ := Result.map_eq_ok_iff.mp ranged
    exact Query.range_eq_ok directed
  | count value =>
    have answered : s.succeeds (.count value) = true := rfl
    rw [completed, if_pos answered, Query.after_single]
    simp [perform, Query.setCount, Call.order?, Call.window?, Call.count?]
  | createGroup conjunction =>
    refine query_of_silent (Query.after_silent rfl rfl rfl) ?_
    cases read : Conjunction.read conjunction <;> simp [perform, read]
  | createFilled conjunction members =>
    refine query_of_silent (Query.after_silent rfl rfl rfl) ?_
    cases created : s.createFilled conjunction members with
    | ok result =>
      simp only [perform, created]
      exact query_createFilled created
    | error failure => simp [perform, created]
  | readGroup document =>
    refine query_of_silent (Query.after_silent rfl rfl rfl) ?_
    cases read : Group.ofDocument document <;> simp [perform, read]
  | setConjunction | setAttribute | compile | fetch | execute | executeClosing | close =>
    exact query_of_silent (Query.after_silent rfl rfl rfl) rfl

end Session

end SearchFilter
