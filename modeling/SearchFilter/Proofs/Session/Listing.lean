import SearchFilter.Proofs.Session.Answering
import SearchFilter.Proofs.Value.Occurrence

/-!
What a search gives. Main statement: the hits of an answer are given as their identifiers, each at its first
place and under itself, and as many are logged.
-/

namespace SearchFilter

namespace Execution

variable {q : Query} {groups : Store} {client : Client} {installed : Bool} {cluster : Cluster}
  {request : Request} {answer found : Value} {hits ids : List Value}

theorem isKey_of_identifies (each : List.Forall₂ Identifies hits ids) : ∀ id ∈ ids, id.isKey = true := by
  induction each with
  | nil => nofun
  | cons first _ ih => exact List.forall_mem_cons.mpr ⟨first.2, ih⟩

theorem interpret_of_listed (searches : q.counts = false) (listed : Value.At ["hits", "hits"] answer found)
    (items : found.items? = some hits) (each : List.Forall₂ Identifies hits ids) :
    interpret q answer =
      ⟨[.logged (searchRecord q.entityType (Value.collectMembers ids).length)],
        .ok (.identifiers (Value.collectMembers ids))⟩ := by
  have read : readIdentifiers q.entityType answer = .ok (Value.collectMembers ids) := by
    rw [readIdentifiers, readHits_eq, follow_eq_ok_iff.mpr listed]
    simp only [Result.mapError_ok, Result.ok_bind, items, identifiers_eq_ok_iff.mpr each, Result.map_ok]
  simp only [interpret, searches, Bool.false_eq_true, if_false, read]
  rfl

/-- A run whose request is answered with hits gives what they are read as, and logs it last. -/
theorem execute_of_listed (searches : q.counts = false) (made : (q.request groups).result = .ok request)
    (answers : (client.call installed cluster request.method request).2.result = .ok answer)
    (listed : Value.At ["hits", "hits"] answer found) (items : found.items? = some hits)
    (each : List.Forall₂ Identifies hits ids) :
    (execute q groups client installed cluster).2 =
      ⟨(compiled q groups).events ++ (client.call installed cluster request.method request).2.events ++
          [.logged (searchRecord q.entityType (Value.collectMembers ids).length)],
        .ok (.identifiers (Value.collectMembers ids))⟩ := by
  have ran : (execute q groups client installed cluster).2 =
      (fetch q groups client installed cluster).2 >>= interpret q := rfl
  have fetched : (fetch q groups client installed cluster).2.result = .ok answer := by
    rw [fetch_of_compiled made]
    exact answers
  rw [ran, Trace.bind_of_ok _ fetched, interpret_of_listed searches listed items each,
    fetch_of_compiled made]

end Execution

namespace Session

variable {s : Session} {request : Request} {answer found : Value} {hits ids : List Value}

/-- A search whose answer has hits, each with an identifier, gives the identifiers at their first places:
none of them is lost, and none is repeated. The mapping that is filled with them one after another has them
under themselves in this order, and their number is what is logged, behind the records of compiling and the
request. -/
theorem execute_gives_first_occurrences (searches : s.query.counts = false)
    (compiles : (s.perform .compile).2.result = .ok (.request request))
    (answers : (s.client.call s.installed s.cluster request.method request).2.result = .ok answer)
    (listed : Value.At ["hits", "hits"] answer found) (items : found.items? = some hits)
    (each : List.Forall₂ Execution.Identifies hits ids) :
    ∃ keys, (s.perform .execute).2 =
        ⟨(s.perform .compile).2.events ++
            (s.client.call s.installed s.cluster request.method request).2.events ++
            [.logged (Execution.searchRecord s.query.entityType keys.length)],
          .ok (.outcome (.identifiers keys))⟩ ∧
      Value.Firsts Value.sameKey ids keys ∧
      Value.selfMapping ids = keys.map (fun key => (key, key)) ∧
      keys.Sublist ids ∧ (keys.Pairwise fun a b => Value.sameKey a b = false) ∧
      ∀ id ∈ ids, id ∈ keys ∨ ∃ key ∈ keys, Value.sameKey key id = true := by
  have made : (s.query.request s.groups).result = .ok request := by
    rw [perform_compile_eq] at compiles
    obtain ⟨r, made, same⟩ := Result.map_eq_ok_iff.mp compiles
    cases same
    exact made
  have ran := Execution.execute_of_listed searches made answers listed items each
  have fit := Execution.isKey_of_identifies each
  have firsts := Value.firsts_collectMembers fit
  refine ⟨Value.collectMembers ids, ?_, firsts, Value.selfMapping_eq ids, firsts.sublist,
    firsts.pairwise, firsts.covers fit⟩
  rw [perform_compile_eq]
  simp only [perform, withClient_eq, ran]
  rfl

/-- Identifiers of several types; the truth value is the same key as the number. -/
def mixedIds : List Value :=
  [.text "b", .int 1, .text "1", .bool true, .text "b"]

/-- Hits with these identifiers. -/
def mixedHits : List Value :=
  mixedIds.map fun id => .ofFields [("_id", id)]

theorem execute_gives_first_occurrences_mixed :
    ((overHits mixedHits).perform .execute).2.result =
        .ok (.outcome (.identifiers [.text "b", .int 1, .text "1"])) ∧
      ((overHits mixedHits).perform .execute).2.events.getLast? =
        some (.logged (Execution.searchRecord (.text "node") 3)) := by
  have listed : Value.At ["hits", "hits"] (listing mixedHits) (.list mixedHits) :=
    .entry rfl (.entry rfl .here)
  have identified (id : Value) (fit : id.isKey = true) :
      Execution.Identifies (.ofFields [("_id", id)]) id := ⟨.entry rfl .here, fit⟩
  have each : List.Forall₂ Execution.Identifies mixedHits mixedIds :=
    .cons (identified _ rfl) (.cons (identified _ rfl) (.cons (identified _ rfl)
      (.cons (identified _ rfl) (.cons (identified _ rfl) .nil))))
  obtain ⟨keys, ran, _, filled, _⟩ :=
    execute_gives_first_occurrences (s := overHits mixedHits) rfl rfl rfl listed rfl each
  have known : [.text "b", .int 1, .text "1"] = keys := by
    have entries : Value.selfMapping mixedIds =
        [Value.text "b", .int 1, .text "1"].map fun key => (key, key) := rfl
    exact (List.map_inj_right fun _ _ same => congrArg Prod.fst same).mp (entries.symm.trans filled)
  rw [ran, ← known]
  exact ⟨rfl, List.getLast?_concat⟩

/-- One thing that is no number, twice. -/
def nanIds : List Value :=
  [.float (.nan 0), .float (.nan 0)]

/-- It is equal to nothing, and still found under itself: a search that hits it twice gives it once. -/
theorem execute_finds_one_nan :
    ((overHits (nanIds.map fun id => .ofFields [("_id", id)])).perform .execute).2.result =
      .ok (.outcome (.identifiers [.float (.nan 0)])) ∧
    Value.Firsts Value.equals nanIds nanIds ∧
    ¬ Value.Firsts Value.equals nanIds [.float (.nan 0)] := by
  have both : Value.Firsts Value.equals nanIds nanIds := .first (.first .nil nofun) (by decide)
  refine ⟨rfl, both, fun one => ?_⟩
  cases both.unique one

end Session

end SearchFilter
