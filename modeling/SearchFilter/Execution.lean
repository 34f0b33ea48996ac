import SearchFilter.Connection
import SearchFilter.Query

/-!
Running a query. The request is compiled afresh and sent once, by the method that it asks for itself. The
answer is read in the mode of the query: as a count, or as the identifiers of the hits in their order without
repetition.
-/

namespace SearchFilter

/-- Who carries out requests: nobody, a client without a connection to keep, or one with. -/
inductive Client
  | none
  | direct
  | connected (connection : Connection)
  deriving Repr

/-- What running a query gives. -/
inductive Outcome
  | count (v : Value)
  | identifiers (ids : List Value)
  deriving Repr

/-- What is shown of an outcome, each on a line: the identifiers, or the count. -/
def Outcome.shown : Outcome → List Value
  | identifiers ids => ids
  | count (.map entries) => entries.map (·.1)
  | count v => [v]

namespace Client

/-- Hands a request to the client. -/
def call (client : Client) (installed : Bool) (cluster : Cluster) (method : Method)
    (request : Request) : Client × Trace Event Value :=
  match client with
  | .none => (client, .fail .noAttribute)
  | .direct => (client, do
      Trace.emit (.sent method request.index request.body)
      match cluster.reply method with
      | .value answer => pure answer
      | .failure name message => .fail (failureNamed name message))
  | .connected connection =>
    let (connection, run) := connection.call installed cluster method request
    (.connected connection, run)

/-- Releases what the client holds. -/
def close (client : Client) : Client × Trace Event Unit :=
  match client with
  | .none => (client, .fail .noAttribute)
  | .direct => (client, pure ())
  | .connected connection =>
    let (connection, run) := connection.close
    (.connected connection, run)

end Client

namespace Execution

/-- The value under a name of an answer. -/
def part (name : String) (answer : Value) : Except Lack Value :=
  match answer with
  | .map entries => match Value.lookup? name entries with
    | some value => .ok value
    | none => .error .entry
  | _ => .error .mapping

/-- The count in an answer. -/
def readCount (entityType answer : Value) : Except Failure Value :=
  match part "count" answer with
  | .ok count => .ok count
  | .error lack => .error (.cluster (.noCount entityType lack))

/-- The hits in an answer. -/
def readHits (entityType answer : Value) : Except Failure Value :=
  match part "hits" answer with
  | .error lack => .error (.cluster (.noHits entityType lack))
  | .ok hits => match part "hits" hits with
    | .ok inner => .ok inner
    | .error lack => .error (.cluster (.noHits entityType lack))

/-- The identifier of a hit, which has to be fit for a key. -/
def identifier (hit : Value) : Except Failure Value :=
  match hit with
  | .map entries => match Value.lookup? "_id" entries with
    | none => .error (.noKey (.text "_id"))
    | some id => if id.isKey then .ok id else .error .wrongType
  | _ => .error .wrongType

/-- The identifiers of hits, in order. -/
def identifiers : List Value → Except Failure (List Value)
  | [] => .ok []
  | hit :: rest => do
    let id ← identifier hit
    let ids ← identifiers rest
    .ok (id :: ids)

/-- The identifiers in an answer, each at its first place. -/
def readIdentifiers (entityType answer : Value) : Except Failure (List Value) := do
  let hits ← readHits entityType answer
  match hits.items? with
  | none => .error .wrongType
  | some items => (identifiers items).map Value.collectMembers

/-- The record of a run that counted. -/
def countRecord (entityType count : Value) : LogRecord :=
  ⟨.info, .query, "Counted " ++ count.display ++ " '" ++ entityType.display ++
    "' entities in <ms>ms"⟩

/-- The record of a run that searched. -/
def searchRecord (entityType : Value) (found : Nat) : LogRecord :=
  ⟨.info, .query, "Found " ++ toString found ++ " '" ++ entityType.display ++
    "' entities in <ms>ms"⟩

/-- Logs a count. A record that cannot be written out is dropped. -/
def logCount (entityType count : Value) : Trace Event Unit :=
  if count.isWritable then Trace.emit (.logged (countRecord entityType count)) else pure ()

/-- Reads an answer in the mode of a query, and logs what it holds. -/
def interpret (q : Query) (answer : Value) : Trace Event Outcome :=
  if q.counts then do
    let count ← Trace.lift (readCount q.entityType answer)
    logCount q.entityType count
    pure (.count count)
  else do
    let ids ← Trace.lift (readIdentifiers q.entityType answer)
    Trace.emit (.logged (searchRecord q.entityType ids.length))
    pure (.identifiers ids)

/-- Compiles a query, sends its request and gives the answer as it comes. -/
def fetch (q : Query) (groups : Store) (client : Client) (installed : Bool)
    (cluster : Cluster) : Client × Trace Event Value :=
  let compiled := (q.request groups).mapEvents Event.logged
  match compiled.result with
  | .error _ => (client, do
      let _ ← compiled
      pure .null)
  | .ok request =>
    let (client, run) := client.call installed cluster request.method request
    (client, do
      let _ ← compiled
      run)

/-- Runs a query. -/
def execute (q : Query) (groups : Store) (client : Client) (installed : Bool)
    (cluster : Cluster) : Client × Trace Event Outcome :=
  let (client, fetched) := fetch q groups client installed cluster
  (client, do
    let answer ← fetched
    interpret q answer)

/-- Runs a query and closes the client whatever comes of it. -/
def executeClosing (q : Query) (groups : Store) (client : Client) (installed : Bool)
    (cluster : Cluster) : Client × Trace Event Outcome :=
  match client with
  | .none => (client, .fail .wrongType)
  | client =>
    let (client, run) := execute q groups client installed cluster
    let (client, closing) := client.close
    (client, ⟨run.events ++ closing.events, run.result⟩)

end Execution

end SearchFilter
