import SearchFilter.Proofs.Connection.Request

namespace SearchFilter

/-- What is asked of a connection: a request, to be closed, or to be there for a block of requests. -/
inductive Use
  | request (method : Method) (request : Request)
  | close
  | enter
  | leave

/-- A use, with the cluster and the driver as it finds them. -/
structure Visit where
  use : Use
  cluster : Cluster
  installed : Bool

/-- An event, with the number of the link that it happens on. -/
inductive LinkEvent
  | logged (record : LogRecord)
  | opened (link : Nat) (options : Value)
  | sent (link : Nat) (method : Method) (index : String) (body : Value)
  | closed (link : Nat)

namespace LinkEvent

/-- The event without the number of its link. -/
def plain : LinkEvent → Event
  | logged record => .logged record
  | opened _ options => .opened options
  | sent _ method index body => .sent method index body
  | closed _ => .closed

def opened? : LinkEvent → Option Nat
  | opened link _ => some link
  | _ => none

def closed? : LinkEvent → Option Nat
  | closed link => some link
  | _ => none

end LinkEvent

/-- The links that were opened in a history, in order. -/
def openedLinks (history : List LinkEvent) : List Nat :=
  history.filterMap LinkEvent.opened?

/-- The links that were closed in a history, in order. -/
def closedLinks (history : List LinkEvent) : List Nat :=
  history.filterMap LinkEvent.closed?

@[simp] theorem openedLinks_concat (history : List LinkEvent) (event : LinkEvent) :
    openedLinks (history ++ [event]) = openedLinks history ++ event.opened?.toList := by
  cases event <;> simp [openedLinks, LinkEvent.opened?, List.filterMap_cons]

@[simp] theorem closedLinks_concat (history : List LinkEvent) (event : LinkEvent) :
    closedLinks (history ++ [event]) = closedLinks history ++ event.closed?.toList := by
  cases event <;> simp [closedLinks, LinkEvent.closed?, List.filterMap_cons]

/-- Visits one after another, with all that happens. -/
def visitAll {σ ε : Type} (visit : σ → Visit → σ × List ε) (s : σ) : List Visit → σ × List ε
  | [] => (s, [])
  | v :: rest =>
    let (s, events) := visit s v
    ((visitAll visit s rest).1, events ++ (visitAll visit s rest).2)

/-- A visit to a connection. Entering a block does nothing, and leaving it closes the connection. -/
def Connection.visit (c : Connection) (v : Visit) : Connection × List Event :=
  match v.use with
  | .request method request =>
    let (c, run) := c.call v.installed v.cluster method request
    (c, run.events)
  | .close | .leave =>
    let (c, run) := c.close
    (c, run.events)
  | .enter => (c, [])

/-- A connection that tells its links apart: how many it has opened, and which of them it holds. -/
structure Tracked where
  options : ConnectionOptions
  opened : Nat
  held : Option Nat

namespace Tracked

variable {t : Tracked} {v : Visit} {installed : Bool} {cluster : Cluster} {method : Method}
  {request : Request} {link : Nat} {history : List LinkEvent}

def make (options : ConnectionOptions) : Tracked :=
  ⟨options, 0, none⟩

/-- The connection without the numbers of its links. -/
def plain (t : Tracked) : Connection :=
  ⟨t.options, t.held.isSome⟩

/-- The link that is held, or else a new one. -/
def acquire (t : Tracked) (installed : Bool) : Tracked × Trace LinkEvent Nat :=
  match t.held with
  | some link => (t, pure link)
  | none =>
    if !installed then (t, .fail (.cluster .noDriver))
    else
      ({ t with opened := t.opened + 1, held := some t.opened }, do
        Trace.emit (.opened t.opened t.options.toDocument)
        match t.options.hostLine? with
        | some line =>
          Trace.emit (.logged ⟨.info, .client, "Created OpenSearch client for " ++ line⟩)
          pure t.opened
        | none => .fail .wrongType)

/-- Sends a request over a link. -/
def transmit (link : Nat) (cluster : Cluster) (method : Method) (request : Request) :
    Trace LinkEvent Value := do
  Trace.emit (.sent link method request.index request.body)
  Trace.lift (Connection.replied cluster method request)

/-- Runs a request over the link that is held, or else over a new one. -/
def call (t : Tracked) (installed : Bool) (cluster : Cluster) (method : Method) (request : Request) :
    Tracked × Trace LinkEvent Value :=
  let (t, acquiring) := t.acquire installed
  (t, do
    let link ← acquiring
    transmit link cluster method request)

/-- Closes the link that is held. -/
def close (t : Tracked) : Tracked × Trace LinkEvent Unit :=
  match t.held with
  | some link => ({ t with held := none }, Trace.emit (.closed link))
  | none => (t, pure ())

def visit (t : Tracked) (v : Visit) : Tracked × List LinkEvent :=
  match v.use with
  | .request method request =>
    let (t, run) := t.call v.installed v.cluster method request
    (t, run.events)
  | .close | .leave =>
    let (t, run) := t.close
    (t, run.events)
  | .enter => (t, [])

/-- What a request does: it goes over the link that is held, or over a new one, or not at all. -/
inductive Calls (t : Tracked) (cluster : Cluster) (method : Method) (request : Request) :
    Bool → Tracked × Trace LinkEvent Value → Prop
  | reuses {installed : Bool} {link : Nat} (holds : t.held = some link) :
      t.Calls cluster method request installed
        (t, ⟨[.sent link method request.index request.body], Connection.replied cluster method request⟩)
  | opens {line : String} (empty : t.held = none) (named : t.options.hostLine? = some line) :
      t.Calls cluster method request true
        ({ t with opened := t.opened + 1, held := some t.opened },
          ⟨[.opened t.opened t.options.toDocument,
            .logged ⟨.info, .client, "Created OpenSearch client for " ++ line⟩,
            .sent t.opened method request.index request.body],
            Connection.replied cluster method request⟩)
  | unnamed (empty : t.held = none) (nameless : t.options.hostLine? = none) :
      t.Calls cluster method request true
        ({ t with opened := t.opened + 1, held := some t.opened },
          ⟨[.opened t.opened t.options.toDocument], .error .wrongType⟩)
  | missing (empty : t.held = none) :
      t.Calls cluster method request false (t, ⟨[], .error (.cluster .noDriver)⟩)

theorem calls (t : Tracked) (installed : Bool) (cluster : Cluster) (method : Method)
    (request : Request) : t.Calls cluster method request installed
      (t.call installed cluster method request) := by
  have made : t.call installed cluster method request = ((t.acquire installed).1,
    (t.acquire installed).2 >>= fun link => transmit link cluster method request) := rfl
  rw [made, acquire]
  cases holds : t.held with
  | some link => exact .reuses holds
  | none =>
    cases installed with
    | false => exact .missing holds
    | true =>
      cases named : t.options.hostLine? with
      | some line => exact .opens holds named
      | none => exact .unnamed holds named

theorem held_call_of_reaches (t : Tracked) (reached : t.plain.reaches installed = true) :
    (t.call installed cluster method request).1.held = some (t.held.getD t.opened) := by
  have made := t.calls installed cluster method request
  generalize t.call installed cluster method request = called at made
  cases made with
  | reuses holds => simp [holds]
  | opens empty | unnamed empty => simp [empty]
  | missing empty => simp [Connection.reaches, plain, empty] at reached

/-- A request does the same whether or not the links are told apart. -/
theorem plain_call (t : Tracked) (installed : Bool) (cluster : Cluster) (method : Method)
    (request : Request) : (t.call installed cluster method request).1.plain =
      (t.plain.call installed cluster method request).1 ∧
    (t.call installed cluster method request).2.mapEvents LinkEvent.plain =
      (t.plain.call installed cluster method request).2 := by
  have made := t.calls installed cluster method request
  generalize t.call installed cluster method request = called at made
  cases made with
  | reuses holds =>
    have isOpen : t.plain.isOpen = true := by simp [plain, holds]
    have reached : t.plain.reaches installed = true := by simp [Connection.reaches, isOpen]
    rw [Connection.call_of_reaches reached, Connection.acquire_of_open isOpen, ← isOpen]
    exact ⟨rfl, rfl⟩
  | opens empty named =>
    have closed : t.plain.isOpen = false := by simp [plain, empty]
    have reached : t.plain.reaches true = true := by simp [Connection.reaches, plain, named]
    rw [Connection.call_of_reaches reached, Connection.acquire_of_installed closed]
    simp only [plain, named]
    exact ⟨rfl, rfl⟩
  | unnamed empty nameless =>
    have closed : t.plain.isOpen = false := by simp [plain, empty]
    rw [Connection.call_of_nameless closed nameless]
    exact ⟨rfl, rfl⟩
  | missing empty =>
    have closed : t.plain.isOpen = false := by simp [plain, empty]
    rw [Connection.call_of_missing closed]
    exact ⟨rfl, rfl⟩

theorem plain_close (t : Tracked) : t.close.1.plain = t.plain.close.1 ∧
    t.close.2.mapEvents LinkEvent.plain = t.plain.close.2 := by
  unfold close Connection.close
  cases holds : t.held with
  | some link => simp only [plain, holds]; exact ⟨rfl, rfl⟩
  | none => simp only [plain, holds]; exact ⟨rfl, rfl⟩

theorem plain_visit (t : Tracked) (v : Visit) : (t.visit v).1.plain = (t.plain.visit v).1 ∧
    (t.visit v).2.map LinkEvent.plain = (t.plain.visit v).2 := by
  unfold visit Connection.visit
  cases v.use with
  | request method request =>
    obtain ⟨state, trace⟩ := t.plain_call v.installed v.cluster method request
    exact ⟨state, congrArg Trace.events trace⟩
  | close | leave =>
    obtain ⟨state, trace⟩ := t.plain_close
    exact ⟨state, congrArg Trace.events trace⟩
  | enter => exact ⟨rfl, rfl⟩

/-- Telling the links apart changes nothing of what the connection does. -/
theorem plain_visitAll (t : Tracked) (visits : List Visit) :
    (visitAll visit t visits).1.plain = (visitAll Connection.visit t.plain visits).1 ∧
      (visitAll visit t visits).2.map LinkEvent.plain =
        (visitAll Connection.visit t.plain visits).2 := by
  induction visits generalizing t with
  | nil => exact ⟨rfl, rfl⟩
  | cons v rest ih =>
    obtain ⟨state, events⟩ := plain_visit t v
    obtain ⟨later, more⟩ := ih (t.visit v).1
    rw [state] at later more
    refine ⟨later, ?_⟩
    simp only [visitAll, List.map_append, events, more]

end Tracked

end SearchFilter
