import SearchFilter.Proofs.Session.Sending

/-!
What an execution makes of an answer. It ends with an outcome exactly if the answer holds one, and with an
error of the library exactly if the answer lacks the part that was asked for; hits that cannot be gone through
or that have no identifiers end it in an error that is none of the library's own.
-/

namespace SearchFilter.Session

open Execution (Holds Lacks Spoils Read)

variable {s : Session} {method : Method} {answer : Value} {request : Request}

/-- How an execution ends that got an answer to a method. -/
structure Reads (answer : Value) (method : Method) (result : Except Failure Answer) : Prop where
  /-- It gives the outcome that the answer holds. -/
  gives : ∀ outcome, result = .ok (.outcome outcome) ↔ Holds answer method outcome
  /-- It ends in an error about the cluster's answer exactly if the answer lacks its part. -/
  refuses : (∃ failure, result = .error failure ∧ failure.kind? = some .clusterQuery) ↔
    Lacks answer method
  /-- It ends in an error of another kind exactly if the hits of the answer are spoilt. -/
  escapes : (∃ failure, result = .error failure ∧ failure.kind? = none) ↔ Spoils answer method
  /-- It ends in one of the first two ways unless the hits are spoilt. -/
  handled : (∃ outcome, result = .ok (.outcome outcome)) ∨
    (∃ failure, result = .error failure ∧ failure.kind? = some .clusterQuery) ↔ ¬ Spoils answer method

theorem reads_of_read {result : Except Failure Outcome} (read : Read answer method result) :
    Reads answer method (result.map .outcome) := by
  have gives (outcome : Outcome) :
      result.map Answer.outcome = .ok (.outcome outcome) ↔ Holds answer method outcome := by
    rw [← read.ok_iff, Result.map_eq_ok_iff]
    simp
  have refuses : (∃ failure, result.map Answer.outcome = .error failure ∧
      failure.kind? = some .clusterQuery) ↔ Lacks answer method := by
    simp only [Result.map_eq_error_iff, read.lacks_iff]
  have escapes : (∃ failure, result.map Answer.outcome = .error failure ∧ failure.kind? = none) ↔
      Spoils answer method := by
    simp only [Result.map_eq_error_iff, read.spoils_iff]
  refine ⟨gives, refuses, escapes, ?_⟩
  rw [refuses, exists_congr gives]
  exact Execution.holds_or_lacks_iff

/-- Whatever a client answers to the request of a query, the execution ends as the answer says: with what it
holds, with an error about what it lacks, or in an error of another kind over spoilt hits. -/
theorem execute_reads (compiles : (s.perform .compile).2.result = .ok (.request request))
    (answers : (s.client.call s.installed s.cluster request.method request).2.result = .ok answer) :
    Reads answer request.method (s.perform .execute).2.result := by
  have made : (s.query.request s.groups).result = .ok request := by
    rw [perform_compile_eq] at compiles
    obtain ⟨r, made, same⟩ := Result.map_eq_ok_iff.mp compiles
    cases same
    exact made
  obtain ⟨records, ran⟩ := Execution.execute_of_compiled s.client s.installed s.cluster made
  rw [perform, withClient_eq, ran]
  simp only [answers, Result.ok_bind]
  exact reads_of_read (Execution.read_outcomeOf request.method s.query.entityType answer)

/-- The answer to a search that finds hits. -/
def listing (hits : List Value) : Value :=
  .ofFields [("hits", .ofFields [("hits", .list hits)])]

/-- Nodes in a cluster that finds hits. -/
def overHits (hits : List Value) : Session :=
  { overNodes with cluster := ⟨.value (listing hits), Cluster.noCount⟩ }

/-- Two nodes, one of them twice. -/
def repeatedHits : List Value :=
  ["b", "a", "b"].map fun id => .ofFields [("_id", .text id)]

theorem execute_reads_repeated : ∃ request,
    ((overHits repeatedHits).perform .compile).2.result = .ok (.request request) ∧
      ((overHits repeatedHits).client.call true (overHits repeatedHits).cluster request.method
        request).2.result = .ok (listing repeatedHits) ∧
      ((overHits repeatedHits).perform .execute).2.result =
        .ok (.outcome (.identifiers [.text "b", .text "a"])) := by
  have listed : Value.At ["hits", "hits"] (listing repeatedHits) (.list repeatedHits) :=
    .entry rfl (.entry rfl .here)
  have each : List.Forall₂ Execution.Identifies repeatedHits [.text "b", .text "a", .text "b"] :=
    .cons ⟨.entry rfl .here, rfl⟩
      (.cons ⟨.entry rfl .here, rfl⟩ (.cons ⟨.entry rfl .here, rfl⟩ .nil))
  have holds : Holds (listing repeatedHits) .search (.identifiers [.text "b", .text "a"]) :=
    .identifiers listed rfl each
  exact ⟨_, rfl, rfl, ((execute_reads (s := overHits repeatedHits) rfl rfl).gives _).mpr holds⟩

/-- Not every answer is handled: a hit without an identifier ends the execution in a foreign error. -/
theorem execute_raises_nameless_hit : ¬ ∀ (s : Session) (request : Request) (answer : Value),
    s.Reachable → (s.perform .compile).2.result = .ok (.request request) →
      (s.client.call s.installed s.cluster request.method request).2.result = .ok answer →
        (∃ outcome, (s.perform .execute).2.result = .ok (.outcome outcome)) ∨
          ∃ failure, (s.perform .execute).2.result = .error failure ∧
            failure.kind? = some .clusterQuery := by
  intro always
  have reachable : (overHits [.map []]).Reachable := new_overNodes.reachable.surround _ true
  have raised : ((overHits [.map []]).perform .execute).2.result = .error (.noKey (.text "_id")) :=
    rfl
  rcases always (overHits [.map []]) _ _ reachable rfl rfl with
    ⟨outcome, gave⟩ | ⟨failure, failed, own⟩
  · cases raised.symm.trans gave
  · cases raised.symm.trans failed
    cases own

end SearchFilter.Session
