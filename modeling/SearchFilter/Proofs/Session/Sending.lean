import SearchFilter.Proofs.Execution.Sending
import SearchFilter.Proofs.Session.Summary

/-!
What leaves for the cluster in a run. Each call that runs the query hands its client one request, which is the
one that the query compiles to at that moment, by count or by search as the last choice of the run says; no
other call sends anything, and running or compiling a query changes nothing of it.
-/

namespace SearchFilter

/-- A call runs the query. -/
def Call.runs : Call → Bool
  | .fetch | .execute | .executeClosing => true
  | _ => false

namespace Session

variable {s : Session} {t : Turn} {turns : List Turn} {entityType conjunction : Value}
  {settings : Option Settings} {failure : Failure} {request : Request}

/-- What happens in a run, in order. -/
def events (s : Session) : List Turn → List Event
  | [] => []
  | t :: rest => ((s.facing t).perform t.call).2.events ++ (s.take t).events rest

/-- The request that the query compiles to, if it does. -/
def request? (s : Session) : Option Request :=
  match (s.perform .compile).2.result with
  | .ok (.request r) => some r
  | _ => none

/-- What leaves for the cluster with a call: the request of the query, if the call runs it and the client
can be reached. -/
def delivers (s : Session) (c : Call) : List (Method × String × Value) :=
  if c.runs && s.client.reaches s.installed then (s.request?.map Request.delivery).toList else []

/-- What leaves for the cluster in a run. -/
def delivered (s : Session) : List Turn → List (Method × String × Value)
  | [] => []
  | t :: rest => (s.facing t).delivers t.call ++ (s.take t).delivered rest

/-- How a query is run from where a session stands. If it compiles, its request is handed to the client, once
and by count or by search as `counts` says; a fetch gives the answer as it comes, and an execution reads it as
one to the method by which the request was sent, and logs. If it does not compile, nobody is handed anything.
Nothing of the session is changed but its client. -/
inductive HandsOver (now : Session) (counts : Bool) : Prop
  | refused {failure : Failure} (compiling : (now.perform .compile).2.result = .error failure)
      (fetching : now.perform .fetch = (now, ⟨(now.perform .compile).2.events, .error failure⟩))
      (executing : now.perform .execute = (now, ⟨(now.perform .compile).2.events, .error failure⟩))
  | handed (records : List LogRecord) {request : Request} {method : Method} {client : Client}
      {trace : Trace Event Value} (compiling : (now.perform .compile).2.result = .ok (.request request))
      (mode : method = if counts then .count else .search)
      (handing : now.client.call now.installed now.cluster method request = (client, trace))
      (fetching : now.perform .fetch = ({ now with client },
        ⟨(now.perform .compile).2.events ++ trace.events, trace.result.map .raw⟩))
      (executing : now.perform .execute = ({ now with client },
        ⟨(now.perform .compile).2.events ++ trace.events ++ records.map .logged,
          (trace.result >>= Execution.outcomeOf method now.query.entityType).map .outcome⟩))

theorem events_change (s : Session) (result : Except Failure Session) :
    (s.change result).2.events = [] := by
  cases result <;> rfl

theorem withClient_eq {α : Type} (s : Session) (run : Client × Trace Event α) (answer : α → Answer) :
    s.withClient run answer = ({ s with client := run.1 }, ⟨run.2.events, run.2.result.map answer⟩) := by
  unfold withClient
  cases ended : run.2.result with
  | error failure => rw [Trace.bind_of_error _ ended, Result.map_error]
  | ok a =>
    rw [Trace.bind_of_ok _ ended, Trace.events_pure, List.append_nil]
    rfl

theorem perform_compile_eq (s : Session) : s.perform .compile =
    (s, ⟨(Execution.compiled s.query s.groups).events,
      (s.query.request s.groups).result.map .request⟩) :=
  s.withClient_eq (s.client, Execution.compiled s.query s.groups) .request

theorem sent_compile (s : Session) : (s.perform .compile).2.events.filterMap Event.sent? = [] := by
  rw [perform_compile_eq]
  exact Execution.sent_compiled

theorem leaving_eq (s : Session) : Execution.leaving s.query s.groups s.client s.installed =
    if s.client.reaches s.installed then (s.request?.map Request.delivery).toList else [] := by
  unfold Execution.leaving request?
  rw [perform_compile_eq]
  cases (s.query.request s.groups).result <;> simp

theorem sent_perform (s : Session) (c : Call) :
    (s.perform c).2.events.filterMap Event.sent? = s.delivers c := by
  cases c with
  | fetch =>
    simp only [perform, withClient_eq]
    exact Execution.sent_fetch.trans s.leaving_eq
  | execute =>
    simp only [perform, withClient_eq]
    exact Execution.sent_execute.trans s.leaving_eq
  | executeClosing =>
    simp only [perform, withClient_eq]
    exact Execution.sent_executeClosing.trans s.leaving_eq
  | compile => exact s.sent_compile
  | close =>
    simp only [perform, withClient_eq]
    exact Client.sent_close
  | createGroup conjunction =>
    cases read : Conjunction.read conjunction <;> simp [perform, read, delivers, Call.runs]
  | createFilled conjunction members =>
    cases made : s.createFilled conjunction members <;> simp [perform, made, delivers, Call.runs]
  | readGroup document =>
    cases read : Group.ofDocument document <;> simp [perform, read, delivers, Call.runs]
  | condition | add | setMembers | sort | range =>
    simp only [perform, events_change]
    rfl
  | setConjunction | setAttribute | count => rfl

/-- A run sends what its calls deliver, each at its moment. -/
theorem sent_events (s : Session) (turns : List Turn) :
    (s.events turns).filterMap Event.sent? = s.delivered turns := by
  induction turns generalizing s with
  | nil => rfl
  | cons t rest ih => rw [events, List.filterMap_append, sent_perform, ih, delivered]

theorem counts_run (new : New entityType conjunction settings s) (turns : List Turn) :
    (s.run turns).query.counts = (s.summary turns).counts := by
  obtain ⟨known, _, _, query⟩ := queryMake_eq_ok (queryMake_of_new new)
  -- without any choice in the run, a new query searches
  have begins : s.query.count = .bool false := congrArg Query.count query
  rw [query_run, Query.counts, Query.after, begins]
  unfold summary Summary.ofCalls
  cases ((s.succeeded turns).filterMap Call.count?).getLast? <;> rfl

/-- Wherever a session stands, a query is run by handing over the request that it compiles to. -/
theorem handsOver (s : Session) : s.HandsOver s.query.counts := by
  cases made : (s.query.request s.groups).result with
  | error failure =>
    have compiling : (s.perform .compile).2.result = .error failure := by
      rw [perform_compile_eq, made, Result.map_error]
    refine .refused compiling ?_ ?_
    · rw [perform_compile_eq, perform, withClient_eq, Execution.fetch_of_refused made]
      rfl
    · rw [perform_compile_eq, perform, withClient_eq, Execution.execute_of_refused made]
      rfl
  | ok request =>
    have compiling : (s.perform .compile).2.result = .ok (.request request) := by
      rw [perform_compile_eq, made, Result.map_ok]
    have mode : request.method = if s.query.counts then .count else .search := by
      rw [Request.method, Query.count_of_request made]
    obtain ⟨records, ran⟩ := Execution.execute_of_compiled s.client s.installed s.cluster made
    cases handing : s.client.call s.installed s.cluster request.method request with
    | mk client trace =>
      rw [handing] at ran
      refine .handed records compiling mode handing ?_ ?_
      · rw [perform_compile_eq, perform, withClient_eq, Execution.fetch_of_compiled made, handing]
      · rw [perform_compile_eq, perform, withClient_eq, ran]

/-- A query that is run in the course of any calls hands its client the request that it compiles to at that
moment, and no other, in the mode that was chosen last; what leaves for the cluster are these requests. -/
theorem sends_current_requests (new : New entityType conjunction settings s) (turns : List Turn) (t : Turn) :
    (((s.run turns).facing t).perform .compile).1 = (s.run turns).facing t ∧
    (((s.run turns).facing t).perform .compile).2.events.filterMap Event.sent? = [] ∧
    ((s.run turns).facing t).HandsOver (s.summary turns).counts ∧
    (s.events turns).filterMap Event.sent? = s.delivered turns := by
  refine ⟨?_, sent_compile _, ?_, s.sent_events turns⟩
  · rw [perform_compile_eq]
  · rw [← counts_run new turns]
    exact handsOver ((s.run turns).facing t)

/-- A search, a count whose transport fails, and a choice to search again. -/
def switchingCalls : List Turn :=
  [⟨.condition none (.value (.text "status")) .null (.text "published"), .vacant, true⟩,
    ⟨.execute, .vacant, true⟩, ⟨.count (.bool true), .vacant, true⟩, ⟨.compile, .vacant, true⟩,
    ⟨.execute, ⟨Cluster.noHits, .failure "Timeout" ""⟩, true⟩, ⟨.count (.int 0), .vacant, true⟩]

theorem sends_current_requests_switching : New (.text "node") .null none overNodes ∧
    ((overNodes.events switchingCalls).filterMap Event.sent?).map Prod.fst = [.search, .count] ∧
    ((overNodes.run switchingCalls).facing ⟨.fetch, .vacant, true⟩).HandsOver false := by
  obtain ⟨_, _, hands, sent⟩ :=
    sends_current_requests new_overNodes switchingCalls ⟨.fetch, .vacant, true⟩
  refine ⟨new_overNodes, ?_, hands⟩
  rw [sent]
  rfl

end Session

end SearchFilter
