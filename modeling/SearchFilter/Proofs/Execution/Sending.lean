import SearchFilter.Proofs.Checked
import SearchFilter.Proofs.Connection.Request
import SearchFilter.Proofs.Execution.Answer

namespace SearchFilter

/-- What of a request leaves for the cluster. -/
def Request.delivery (r : Request) : Method × String × Value :=
  (r.method, r.index, r.body)

namespace Compiler

variable {c : Compiler} {index filter : Value} {g : Group} {orders : List HitOrder}
  {window : Option Window} {counts : Bool} {r : Request}

private theorem count_of_countRequest (made : countRequest index filter = .ok r) : r.count = true := by
  obtain ⟨name, _, rfl⟩ := Field.Checked.map_eq_ok_iff.mp (Field.Checked.toExcept_eq_ok_iff.mp made)
  rfl

private theorem count_of_searchRequest (made : c.searchRequest index filter orders window = .ok r) :
    r.count = false := by
  unfold searchRequest at made
  cases sized : c.sizeOf (positive? (window.bind (·.start))) (positive? (window.bind (·.length))) with
  | error failure =>
    simp only [sized] at made
    cases made
  | ok size =>
    simp only [sized] at made
    obtain ⟨name, number, _, _, rfl⟩ := Field.Checked.seq_eq_ok_iff.mp (Field.Checked.toExcept_eq_ok_iff.mp made)
    rfl

/-- A request says itself whether it counts, and it does so if it was compiled to. -/
theorem count_of_request (made : (c.request index g orders window counts).result = .ok r) :
    r.count = counts := by
  rw [request, Trace.result_bind] at made
  obtain ⟨q, _, made⟩ := Result.bind_eq_ok_iff.mp made
  rw [Trace.result_lift] at made
  cases counts with
  | true => exact count_of_countRequest made
  | false => exact count_of_searchRequest made

end Compiler

namespace Query

variable {q : Query} {groups : Store} {r : Request}

/-- The method whose answers a query reads. -/
def method (q : Query) : Method :=
  if q.counts then .count else .search

theorem count_of_request (made : (q.request groups).result = .ok r) : r.count = q.counts := by
  unfold request at made
  cases rooted : groups.tree? q.root with
  | none =>
    rw [rooted] at made
    cases made
  | some root =>
    rw [rooted] at made
    exact Compiler.count_of_request made

theorem method_of_request (made : (q.request groups).result = .ok r) : q.method = r.method := by
  rw [method, Request.method, count_of_request made]

end Query

namespace Client

variable {client : Client} {installed : Bool} {cluster : Cluster} {method : Method} {request : Request}

/-- A request that the client is handed gets through. -/
def reaches (client : Client) (installed : Bool) : Bool :=
  match client with
  | .none => false
  | .direct => true
  | .connected c => c.reaches installed

/-- A client sends the request that it is handed, once if it gets through, and nothing else. -/
theorem sent_call : (client.call installed cluster method request).2.events.filterMap Event.sent? =
    if client.reaches installed then [(method, request.index, request.body)] else [] := by
  cases client with
  | none => rfl
  | direct =>
    unfold call
    rw [Trace.bind_of_ok _ (Trace.result_emit _), List.filterMap_append]
    cases cluster.reply method <;> rfl
  | connected c => exact Connection.sent_call

theorem sent_close : client.close.2.events.filterMap Event.sent? = [] := by
  cases client with
  | none | direct => rfl
  | connected c =>
    simp only [close, Connection.close]
    split <;> rfl

end Client

namespace Execution

variable {q : Query} {groups : Store} {client : Client} {installed : Bool} {cluster : Cluster}
  {request : Request} {failure : Failure} {answer : Value}

/-- What is logged while a query is compiled, and its request. -/
def compiled (q : Query) (groups : Store) : Trace Event Request :=
  (q.request groups).mapEvents Event.logged

theorem sent_compiled : (compiled q groups).events.filterMap Event.sent? = [] := by
  simp [compiled, Event.sent?]

theorem fetch_of_refused (refused : (q.request groups).result = .error failure) :
    fetch q groups client installed cluster =
      (client, ⟨(compiled q groups).events, .error failure⟩) := by
  have result : ((q.request groups).mapEvents Event.logged).result = .error failure := refused
  simp only [fetch, result]
  rw [Trace.bind_of_error _ result, compiled]

theorem fetch_of_compiled (made : (q.request groups).result = .ok request) :
    fetch q groups client installed cluster =
      ((client.call installed cluster request.method request).1,
        ⟨(compiled q groups).events ++ (client.call installed cluster request.method request).2.events,
          (client.call installed cluster request.method request).2.result⟩) := by
  have result : ((q.request groups).mapEvents Event.logged).result = .ok request := made
  simp only [fetch, result]
  rw [Trace.bind_of_ok _ result, compiled]

theorem logCount_eq (entityType count : Value) : ∃ records : List LogRecord,
    logCount entityType count = ⟨records.map .logged, .ok ()⟩ := by
  unfold logCount
  split
  · exact ⟨[countRecord entityType count], rfl⟩
  · exact ⟨[], rfl⟩

/-- An answer is read as one to the method of the query, and what it holds is logged. -/
theorem interpret_eq (q : Query) (answer : Value) : ∃ records : List LogRecord, interpret q answer =
    ⟨records.map .logged, outcomeOf q.method q.entityType answer⟩ := by
  unfold interpret Query.method
  cases q.counts with
  | true =>
    simp only [if_true, outcomeOf]
    cases read : readCount q.entityType answer with
    | error failure => exact ⟨[], rfl⟩
    | ok count =>
      obtain ⟨records, logged⟩ := logCount_eq q.entityType count
      refine ⟨records, ?_⟩
      rw [Trace.bind_of_ok _ (Trace.result_lift _), logged, Trace.bind_of_ok _ rfl]
      simp
  | false =>
    simp only [Bool.false_eq_true, if_false, outcomeOf]
    cases read : readIdentifiers q.entityType answer with
    | error failure => exact ⟨[], rfl⟩
    | ok ids => exact ⟨[searchRecord q.entityType ids.length], rfl⟩

theorem execute_eq (q : Query) (groups : Store) (client : Client) (installed : Bool) (cluster : Cluster) :
    ∃ records : List LogRecord, execute q groups client installed cluster =
    ((fetch q groups client installed cluster).1,
      ⟨(fetch q groups client installed cluster).2.events ++ records.map .logged,
        (fetch q groups client installed cluster).2.result >>= outcomeOf q.method q.entityType⟩) := by
  unfold execute
  generalize fetch q groups client installed cluster = fetched
  obtain ⟨after, run⟩ := fetched
  cases ended : run.result with
  | error failure =>
    refine ⟨[], ?_⟩
    simp only [Trace.bind_of_error _ ended, Result.error_bind, List.map_nil, List.append_nil]
  | ok answer =>
    obtain ⟨records, read⟩ := interpret_eq q answer
    refine ⟨records, ?_⟩
    simp only [Trace.bind_of_ok _ ended, Result.ok_bind, read]

theorem execute_of_refused (refused : (q.request groups).result = .error failure) :
    execute q groups client installed cluster =
      (client, ⟨(compiled q groups).events, .error failure⟩) := by
  simp only [execute, fetch_of_refused refused]
  rw [Trace.bind_of_error _ rfl]

theorem execute_of_compiled (client : Client) (installed : Bool) (cluster : Cluster)
    (made : (q.request groups).result = .ok request) :
    ∃ records : List LogRecord, execute q groups client installed cluster =
      ((client.call installed cluster request.method request).1,
        ⟨(compiled q groups).events ++ (client.call installed cluster request.method request).2.events ++
            records.map .logged,
          (client.call installed cluster request.method request).2.result >>=
            outcomeOf request.method q.entityType⟩) := by
  obtain ⟨records, ran⟩ := execute_eq q groups client installed cluster
  rw [fetch_of_compiled made, Query.method_of_request made] at ran
  exact ⟨records, ran⟩

/-- What leaves for the cluster when a query is run: its request, if there is one and it gets through. -/
def leaving (q : Query) (groups : Store) (client : Client) (installed : Bool) :
    List (Method × String × Value) :=
  match (q.request groups).result with
  | .ok request => if client.reaches installed then [request.delivery] else []
  | .error _ => []

theorem sent_fetch : (fetch q groups client installed cluster).2.events.filterMap Event.sent? =
    leaving q groups client installed := by
  unfold leaving
  cases made : (q.request groups).result with
  | error failure => rw [fetch_of_refused made, sent_compiled]
  | ok request =>
    rw [fetch_of_compiled made, List.filterMap_append, sent_compiled, Client.sent_call]
    rfl

theorem sent_execute : (execute q groups client installed cluster).2.events.filterMap Event.sent? =
    leaving q groups client installed := by
  obtain ⟨records, ran⟩ := execute_eq q groups client installed cluster
  rw [ran, List.filterMap_append, sent_fetch]
  simp [Event.sent?]

theorem sent_executeClosing :
    (executeClosing q groups client installed cluster).2.events.filterMap Event.sent? =
      leaving q groups client installed := by
  cases client with
  | none =>
    unfold leaving
    cases (q.request groups).result <;> rfl
  | direct | connected c =>
    unfold executeClosing
    rw [List.filterMap_append, sent_execute, Client.sent_close, List.append_nil]

end Execution

end SearchFilter
