import SearchFilter.Connection

namespace SearchFilter

/-- The request that leaves for a cluster with an event. -/
def Event.sent? : Event → Option (Method × String × Value)
  | .sent method index body => some (method, index, body)
  | _ => none

namespace Connection

variable {c : Connection} {installed : Bool} {cluster : Cluster} {method : Method}
  {request : Request} {name message : String}

/-- A request gets through: the connection is open, or its driver is there and its hosts have names. -/
def reaches (c : Connection) (installed : Bool) : Bool :=
  c.isOpen || (installed && c.options.hostLine?.isSome)

/-- What the cluster's reply to a request gives. -/
def replied (cluster : Cluster) (method : Method) (request : Request) : Except Failure Value :=
  match cluster.reply method with
  | .failure name message => .error (transportFailure method request name message)
  | .value answer => mappingOf answer

theorem transmit_eq : transmit cluster method request =
    ⟨[.sent method request.index request.body], replied cluster method request⟩ := by
  unfold transmit replied
  rw [Trace.bind_of_ok _ (Trace.result_emit _)]
  cases cluster.reply method <;> rfl

theorem acquire_of_open (isOpen : c.isOpen = true) : c.acquire installed = (c, pure ()) := by
  simp [acquire, isOpen]

theorem acquire_of_missing (closed : c.isOpen = false) :
    c.acquire false = (c, .fail (.cluster .noDriver)) := by
  simp [acquire, closed]

/-- A connection that is opened is followed by a record with its hosts, if they can be named. -/
theorem acquire_of_installed (closed : c.isOpen = false) : c.acquire true =
    ({ c with isOpen := true }, match c.options.hostLine? with
      | some line => ⟨[.opened c.options.toDocument,
          .logged ⟨.info, .client, "Created OpenSearch client for " ++ line⟩], .ok ()⟩
      | none => ⟨[.opened c.options.toDocument], .error .wrongType⟩) := by
  simp only [acquire, closed, Bool.false_eq_true, if_false, Bool.not_true]
  cases c.options.hostLine? <;> rfl

theorem acquire_of_reaches (reached : c.reaches installed = true) :
    (c.acquire installed).1 = { c with isOpen := true } ∧
      (c.acquire installed).2.result = .ok () := by
  cases isOpen : c.isOpen with
  | true =>
    rw [acquire_of_open isOpen, ← isOpen]
    exact ⟨rfl, rfl⟩
  | false =>
    rw [reaches, isOpen, Bool.false_or, Bool.and_eq_true] at reached
    obtain ⟨rfl, named⟩ := reached
    obtain ⟨line, found⟩ := Option.isSome_iff_exists.mp named
    rw [acquire_of_installed isOpen, found]
    exact ⟨rfl, rfl⟩

theorem acquire_of_not_reaches (lost : c.reaches installed = false) :
    ∃ failure, (c.acquire installed).2.result = .error failure := by
  rw [reaches, Bool.or_eq_false_iff] at lost
  obtain ⟨closed, lost⟩ := lost
  cases installed with
  | false => exact ⟨.cluster .noDriver, by rw [acquire_of_missing closed]; rfl⟩
  | true =>
    rw [Bool.true_and, Option.isSome_eq_false_iff, Option.isNone_iff_eq_none] at lost
    exact ⟨.wrongType, by rw [acquire_of_installed closed, lost]⟩

theorem sent_acquire : (c.acquire installed).2.events.filterMap Event.sent? = [] := by
  cases isOpen : c.isOpen with
  | true => rw [acquire_of_open isOpen]; rfl
  | false =>
    cases installed with
    | false => rw [acquire_of_missing isOpen]; rfl
    | true =>
      rw [acquire_of_installed isOpen]
      cases c.options.hostLine? <;> rfl

private theorem call_eq : c.call installed cluster method request = ((c.acquire installed).1,
    (c.acquire installed).2 >>= fun _ => transmit cluster method request) := rfl

/-- A request that gets through is sent when the connection is open, and its answer is the reply. -/
theorem call_of_reaches (reached : c.reaches installed = true) :
    c.call installed cluster method request = ({ c with isOpen := true },
      ⟨(c.acquire installed).2.events ++ [.sent method request.index request.body],
        replied cluster method request⟩) := by
  obtain ⟨opens, done⟩ := acquire_of_reaches reached
  rw [call_eq, transmit_eq, Trace.bind_of_ok _ done, ← opens]

theorem call_of_missing (closed : c.isOpen = false) : c.call false cluster method request =
    (c, .fail (.cluster .noDriver)) := by
  rw [call_eq, acquire_of_missing closed]
  rfl

theorem call_of_nameless (closed : c.isOpen = false) (nameless : c.options.hostLine? = none) :
    c.call true cluster method request =
      ({ c with isOpen := true }, ⟨[.opened c.options.toDocument], .error .wrongType⟩) := by
  rw [call_eq, acquire_of_installed closed, nameless]
  rfl

theorem call_of_not_reaches (cluster : Cluster) (method : Method) (request : Request)
    (lost : c.reaches installed = false) :
    ∃ failure, c.call installed cluster method request =
      ((c.acquire installed).1, ⟨(c.acquire installed).2.events, .error failure⟩) := by
  obtain ⟨failure, failed⟩ := acquire_of_not_reaches lost
  exact ⟨failure, by rw [call_eq, Trace.bind_of_error _ failed]⟩

theorem opened_of_call (closed : c.isOpen = false) :
    (c.call true cluster method request).1.isOpen = true ∧
      .opened c.options.toDocument ∈ (c.call true cluster method request).2.events := by
  rw [call_eq]
  have opens : (c.acquire true).1.isOpen = true ∧
      .opened c.options.toDocument ∈ (c.acquire true).2.events := by
    rw [acquire_of_installed closed]
    cases c.options.hostLine? with
    | some line => exact ⟨rfl, List.mem_cons_self⟩
    | none => exact ⟨rfl, List.mem_cons_self⟩
  exact ⟨opens.1, (Trace.events_prefix_bind _ _).subset opens.2⟩

theorem sent_call : (c.call installed cluster method request).2.events.filterMap Event.sent? =
    if c.reaches installed then [(method, request.index, request.body)] else [] := by
  cases reached : c.reaches installed with
  | true =>
    rw [call_of_reaches reached, List.filterMap_append, sent_acquire]
    rfl
  | false =>
    obtain ⟨failure, ended⟩ := call_of_not_reaches cluster method request reached
    rw [ended]
    exact sent_acquire

/-- A transport that fails is told apart by the name of its error: the cluster cannot be reached if there
is "ConnectionError" in the name, and refused the request otherwise. -/
theorem exists_transportFailure (method : Method) (request : Request) (name message : String) :
    ∃ fault : ClusterFault, transportFailure method request name message = .cluster fault ∧
      (fault.kind = .clusterConnection ↔ "ConnectionError".toList <:+: name.toList) ∧
      (fault.kind = .clusterQuery ↔ ¬ "ConnectionError".toList <:+: name.toList) := by
  rw [← String.contains_string_iff]
  unfold transportFailure
  cases name.contains "ConnectionError" with
  | true => exact ⟨.unreachable name _, rfl, by simp [ClusterFault.kind]⟩
  | false => exact ⟨.refused method request.index name _, rfl, by simp [ClusterFault.kind]⟩

theorem result_call_of_failure (reached : c.reaches installed = true)
    (failed : cluster.reply method = .failure name message) : ∃ fault : ClusterFault,
      (c.call installed cluster method request).2.result = .error (.cluster fault) ∧
        (fault.kind = .clusterConnection ↔ "ConnectionError".toList <:+: name.toList) ∧
        (fault.kind = .clusterQuery ↔ ¬ "ConnectionError".toList <:+: name.toList) := by
  obtain ⟨fault, told, kinds⟩ := exists_transportFailure method request name message
  have reply : replied cluster method request = .error (.cluster fault) := by
    simp only [replied, failed, told]
  refine ⟨fault, ?_, kinds⟩
  rw [call_of_reaches reached, reply]

end Connection

end SearchFilter
