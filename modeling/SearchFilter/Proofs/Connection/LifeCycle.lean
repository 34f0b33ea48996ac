import SearchFilter.Proofs.Connection.Link

/-!
The life of the links of a connection, over requests, blocks and closings in any order and number. At every
moment each link that was opened has been closed once, but for at most the last one; requests go over that
one, and nothing that goes wrong on the way leaves a link behind.
-/

namespace SearchFilter

/-- A history in which all that happens on a link happens while it is held, and a link is opened only when
none is. How many links were opened, and which of them is held, is told at the end. -/
inductive Orderly (options : Value) : List LinkEvent → Nat → Option Nat → Prop
  | start : Orderly options [] 0 none
  | logged {history : List LinkEvent} {count : Nat} {held : Option Nat}
      (earlier : Orderly options history count held) (record : LogRecord) :
      Orderly options (history ++ [.logged record]) count held
  | opened {history : List LinkEvent} {count : Nat} (earlier : Orderly options history count none) :
      Orderly options (history ++ [.opened count options]) (count + 1) (some count)
  | sent {history : List LinkEvent} {count link : Nat}
      (earlier : Orderly options history count (some link)) (method : Method) (index : String)
      (body : Value) : Orderly options (history ++ [.sent link method index body]) count (some link)
  | closed {history : List LinkEvent} {count link : Nat}
      (earlier : Orderly options history count (some link)) :
      Orderly options (history ++ [.closed link]) count none

namespace Orderly

variable {options : Value} {history moment : List LinkEvent} {count : Nat} {held : Option Nat}

theorem openedLinks_eq_range (orderly : Orderly options history count held) :
    openedLinks history = List.range count := by
  induction orderly with
  | start => rfl
  | opened earlier ih => simp [LinkEvent.opened?, ih, List.range_succ]
  | logged earlier record ih => simpa [LinkEvent.opened?] using ih
  | sent earlier method index body ih => simpa [LinkEvent.opened?] using ih
  | closed earlier ih => simpa [LinkEvent.opened?] using ih

/-- Each link that was opened has been closed, in the same order, but for the one that is held. -/
theorem openedLinks_eq (orderly : Orderly options history count held) :
    openedLinks history = closedLinks history ++ held.toList := by
  induction orderly with
  | start => rfl
  | opened earlier ih => simp [LinkEvent.opened?, LinkEvent.closed?, ih]
  | logged earlier record ih => simp [LinkEvent.opened?, LinkEvent.closed?, ih]
  | sent earlier method index body ih => simp [LinkEvent.opened?, LinkEvent.closed?, ih]
  | closed earlier ih => simp [LinkEvent.opened?, LinkEvent.closed?, ih]

theorem of_prefix (orderly : Orderly options history count held) (earlier : moment <+: history) :
    ∃ count held, Orderly options moment count held := by
  induction orderly with
  | start => exact ⟨0, none, by rw [List.prefix_nil.mp earlier]; exact .start⟩
  | logged before record ih =>
    rcases List.prefix_concat_iff.mp earlier with whole | less
    · exact ⟨_, _, whole ▸ before.logged record⟩
    · exact ih less
  | opened before ih =>
    rcases List.prefix_concat_iff.mp earlier with whole | less
    · exact ⟨_, _, whole ▸ before.opened⟩
    · exact ih less
  | sent before method index body ih =>
    rcases List.prefix_concat_iff.mp earlier with whole | less
    · exact ⟨_, _, whole ▸ before.sent method index body⟩
    · exact ih less
  | closed before ih =>
    rcases List.prefix_concat_iff.mp earlier with whole | less
    · exact ⟨_, _, whole ▸ before.closed⟩
    · exact ih less

/-- A request goes over the link that is held, which is the last one opened and has not been closed. -/
theorem sent_over_held {later : List LinkEvent} {link : Nat} {method : Method} {index : String} {body : Value}
    (orderly : Orderly options (moment ++ .sent link method index body :: later) count held) :
    (openedLinks moment).getLast? = some link ∧ link ∉ closedLinks moment := by
  have upToHere : moment ++ [.sent link method index body] <+:
      moment ++ .sent link method index body :: later := ⟨later, by simp⟩
  obtain ⟨opened, _, before⟩ := orderly.of_prefix upToHere
  generalize whole : moment ++ [.sent link method index body] = history at before
  -- the history up to this request is orderly too, and no other step ends in a request
  have holds : Orderly options moment opened (some link) := by
    cases before with
    | sent earlier =>
      obtain ⟨rfl, same⟩ := List.append_inj' whole rfl
      cases same
      exact earlier
    | start => simp at whole
    | logged | opened | closed => simp at whole
  have closed := holds.openedLinks_eq
  -- links are numbered without repetition, so what was closed before is not the one held
  have distinct : (closedLinks moment ++ [link]).Nodup := by
    rw [Option.toList_some] at closed
    rw [← closed, holds.openedLinks_eq_range]
    exact List.nodup_range
  refine ⟨by simp [closed], ?_⟩
  intro again
  exact (List.nodup_append.mp distinct).2.2 link again link (List.mem_singleton_self link) rfl

theorem options_of_opened (orderly : Orderly options history count held) {link : Nat} {given : Value}
    (member : .opened link given ∈ history) : given = options := by
  induction orderly with
  | start => cases member
  | opened earlier ih =>
    rcases List.mem_append.mp member with before | now
    · exact ih before
    · cases List.mem_singleton.mp now
      rfl
  | logged _ _ ih | sent _ _ _ _ ih | closed _ ih => exact ih (by simpa using member)

end Orderly

namespace Tracked

variable {t : Tracked} {history : List LinkEvent}

theorem orderly_visit (v : Visit) (orderly : Orderly t.options.toDocument history t.opened t.held) :
    (t.visit v).1.options = t.options ∧
      Orderly t.options.toDocument (history ++ (t.visit v).2) (t.visit v).1.opened (t.visit v).1.held := by
  unfold visit
  cases v.use with
  | request method request =>
    have made := t.calls v.installed v.cluster method request
    simp only
    generalize t.call v.installed v.cluster method request = called at made
    generalize v.installed = installed at made
    cases made with
    | reuses holds =>
      rw [holds] at orderly ⊢
      exact ⟨rfl, orderly.sent method request.index request.body⟩
    | @opens line empty named =>
      rw [empty] at orderly
      have logged := orderly.opened.logged ⟨.info, .client, "Created OpenSearch client for " ++ line⟩
      have sent := logged.sent method request.index request.body
      rw [List.append_assoc, List.append_assoc] at sent
      exact ⟨rfl, sent⟩
    | unnamed empty =>
      rw [empty] at orderly
      exact ⟨rfl, orderly.opened⟩
    | missing empty => exact ⟨rfl, by simpa using orderly⟩
  | close | leave =>
    unfold close
    cases holds : t.held with
    | some link =>
      rw [holds] at orderly
      exact ⟨rfl, orderly.closed⟩
    | none =>
      rw [holds] at orderly
      exact ⟨rfl, by simpa [holds] using orderly⟩
  | enter => exact ⟨rfl, by simpa using orderly⟩

/-- So do visits of any number. -/
theorem orderly_visitAll (visits : List Visit)
    (orderly : Orderly t.options.toDocument history t.opened t.held) :
    (visitAll visit t visits).1.options = t.options ∧
      Orderly t.options.toDocument (history ++ (visitAll visit t visits).2)
        (visitAll visit t visits).1.opened (visitAll visit t visits).1.held := by
  induction visits generalizing t history with
  | nil => exact ⟨rfl, by simpa [visitAll] using orderly⟩
  | cons v rest ih =>
    obtain ⟨same, next⟩ := orderly_visit v orderly
    rw [← same] at next
    obtain ⟨kept, later⟩ := ih next
    rw [List.append_assoc, same] at later
    exact ⟨kept.trans same, later⟩

end Tracked

/-- What is so of a connection with its events, and of the links that it opened, after some visits. -/
structure Connection.LifeCycle (options : ConnectionOptions) (c : Connection) (events : List Event)
    (t : Tracked) (history : List LinkEvent) : Prop where
  /-- The links that are told apart are those of the connection. -/
  told : t.plain = c ∧ history.map LinkEvent.plain = events
  /-- At every moment all links were closed in the order in which they were opened, and each of them once,
  but for at most the last one. -/
  paired : ∀ moment, moment <+: history → (openedLinks moment).Nodup ∧
    ∃ held : Option Nat, openedLinks moment = closedLinks moment ++ held.toList
  /-- One link more has been opened than closed if the connection holds one, and as many if not. -/
  balance : (openedLinks history).length = (closedLinks history).length + if c.isOpen then 1 else 0
  /-- A request goes over the link that was opened last, which is not closed. -/
  current : ∀ earlier later link method index body,
    history = earlier ++ .sent link method index body :: later →
      (openedLinks earlier).getLast? = some link ∧ link ∉ closedLinks earlier
  /-- All links are opened alike. -/
  alike : ∀ link given, .opened link given ∈ history → given = options.toDocument
  /-- Closing a connection that holds no link does nothing. -/
  idle : c.isOpen = false → c.close = (c, pure ())
  /-- Without its driver a link cannot be opened, which leaves the connection as it was; a request opens
  one when the driver is there again. -/
  retry : c.isOpen = false → ∀ cluster method request,
    (∃ failure, c.call false cluster method request = (c, .fail failure) ∧
      failure.kind? = some .configuration) ∧
    (c.call true cluster method request).1.isOpen = true ∧
    .opened options.toDocument ∈ (c.call true cluster method request).2.events
  /-- A request that fails on its way ends in an error of the library, told apart by the name of the
  transport's error, and leaves the link in place. -/
  wrapped : ∀ installed cluster method request name message, c.reaches installed = true →
    cluster.reply method = .failure name message →
      (t.call installed cluster method request).1.held = some (t.held.getD t.opened) ∧
      ∃ fault : ClusterFault,
        (c.call installed cluster method request).2.result = .error (.cluster fault) ∧
        (fault.kind = .clusterConnection ↔ "ConnectionError".toList <:+: name.toList) ∧
        (fault.kind = .clusterQuery ↔ ¬ "ConnectionError".toList <:+: name.toList)

/-- Whatever is asked of a connection, in whatever order and with whatever replies: it holds at most one
link, all requests go over it, and each link that was opened is closed once, but for the one that is held. -/
theorem Connection.lifeCycle_of_visits (options : ConnectionOptions) (visits : List Visit) :
    LifeCycle options (visitAll visit (make options) visits).1 (visitAll visit (make options) visits).2
      (visitAll Tracked.visit (.make options) visits).1
      (visitAll Tracked.visit (.make options) visits).2 := by
  have begins : Orderly options.toDocument [] (Tracked.make options).opened (Tracked.make options).held :=
    .start
  obtain ⟨same, orderly⟩ := Tracked.orderly_visitAll (t := .make options) visits begins
  obtain ⟨state, events⟩ := Tracked.plain_visitAll (.make options) visits
  change _ = (visitAll visit (make options) visits).1 at state
  change _ = (visitAll visit (make options) visits).2 at events
  rw [List.nil_append] at orderly
  generalize (visitAll Tracked.visit (Tracked.make options) visits).2 = history at orderly events ⊢
  generalize (visitAll Tracked.visit (Tracked.make options) visits).1 = t at same orderly state ⊢
  generalize (visitAll visit (make options) visits).1 = c at state ⊢
  change t.options = options at same
  have holds : c.isOpen = t.held.isSome := by rw [← state]; rfl
  have asked : c.options = options := by rw [← state]; exact same
  constructor
  case told => exact ⟨state, events⟩
  case paired =>
    intro moment earlier
    obtain ⟨count, held, there⟩ := orderly.of_prefix earlier
    refine ⟨?_, held, there.openedLinks_eq⟩
    rw [there.openedLinks_eq_range]
    exact List.nodup_range
  case balance =>
    rw [orderly.openedLinks_eq, List.length_append, holds]
    cases t.held <;> rfl
  case current =>
    intro earlier later link method index body whole
    rw [whole] at orderly
    exact orderly.sent_over_held
  case alike =>
    intro link given member
    exact orderly.options_of_opened member
  case idle =>
    intro closed
    simp [close, closed]
  case retry =>
    intro closed cluster method request
    refine ⟨⟨.cluster .noDriver, call_of_missing closed, rfl⟩, ?_⟩
    rw [← asked]
    exact opened_of_call closed
  case wrapped =>
    intro installed cluster method request name message reached failed
    rw [← state] at reached
    exact ⟨t.held_call_of_reaches reached, state ▸ result_call_of_failure reached failed⟩

/-- The first link is closed when a block is left, the second is held at the end. -/
example : let r : Request := ⟨"node", false, .map [], none, none, none, none⟩
    let visits : List Visit := [⟨.request .search r, .vacant, false⟩, ⟨.enter, .vacant, true⟩,
      ⟨.request .search r, .vacant, true⟩,
      ⟨.request .count r, ⟨.value .null, .failure "Timeout" ""⟩, false⟩,
      ⟨.leave, .vacant, false⟩, ⟨.close, .vacant, false⟩, ⟨.request .count r, .vacant, true⟩]
    openedLinks (visitAll Tracked.visit (.make (.ofArguments [])) visits).2 = [0, 1] ∧
      closedLinks (visitAll Tracked.visit (.make (.ofArguments [])) visits).2 = [0] := by
  exact ⟨rfl, rfl⟩

end SearchFilter
