import Mathlib
import SearchFilter.Proofs.CommandLine.OneFile
import SearchFilter.Proofs.CommandLine.Printing
import SearchFilter.Proofs.Execution.Sending
import SearchFilter.Proofs.Value.Writable

/-!
What a run of the program does to the outside but for its log. It sends at most one request, over a connection
that is opened for it and closed again before anything is printed; however reading, building, sending or the
answer may fail. A run that does not end well has printed nothing, or its result up to a line that cannot be
printed.
-/

namespace SearchFilter

/-- An event that is no record of the log. -/
def Event.outer : Event → Bool
  | .logged _ => false
  | _ => true

/-- What is done besides logging. -/
def Event.besides (events : List Event) : List Event :=
  events.filter Event.outer

namespace Event

variable {events later : List Event}

@[simp] theorem besides_append : besides (events ++ later) = besides events ++ besides later :=
  List.filter_append ..

@[simp] theorem besides_logged (records : List LogRecord) : besides (records.map .logged) = [] := by
  induction records with
  | nil => rfl
  | cons record rest ih => exact ih

@[simp] theorem besides_printed (lines : List String) :
    besides (lines.map .printed) = lines.map .printed :=
  List.filter_eq_self.mpr (List.forall_mem_map.mpr fun _ _ => rfl)

end Event

/-- What is done to the outside when one request is asked for by some method, or none: nothing at all, or that
request over a connection that is opened for it and closed after it. -/
inductive Errand (asked : Option Method) : List Event → Prop
  | nothing : Errand asked []
  | request {method : Method} (asks : asked = some method) (options : Value) (index : String)
      (body : Value) : Errand asked [.opened options, .sent method index body, .closed]

namespace Connection

variable {c : Connection}

private theorem mapM_asText? (texts : List String) :
    (texts.map Value.text).mapM Value.asText? = some texts := by
  induction texts with
  | nil => rfl
  | cons text rest ih =>
    rw [List.map_cons, List.mapM_cons, ih]
    rfl

theorem isSome_hostLine? (s : ClusterSettings) :
    (ConnectionOptions.ofSettings s).hostLine?.isSome = true := by
  have listed : ∃ texts : List String,
      (ConnectionOptions.ofSettings s).hosts = .list (texts.map .text) := by
    cases hosts : s.hosts with
    | nil =>
      refine ⟨ClusterSettings.defaultHosts, ?_⟩
      rw [ConnectionOptions.ofSettings, hosts]
      rfl
    | cons host rest =>
      refine ⟨host :: rest, ?_⟩
      rw [ConnectionOptions.ofSettings, hosts]
      rfl
  obtain ⟨texts, hosts⟩ := listed
  have items : (ConnectionOptions.ofSettings s).hosts.items? = some (texts.map .text) := by
    rw [hosts]
    rfl
  rw [ConnectionOptions.hostLine?, items]
  change ((texts.map Value.text).mapM Value.asText? >>= _).isSome = true
  rw [mapM_asText?]
  rfl

/-- A request over a new connection, which is closed afterwards, is an errand. -/
theorem errand_call (closed : c.isOpen = false) (named : c.options.hostLine?.isSome = true)
    (installed : Bool) (cluster : Cluster) (method : Method) (request : Request) :
    Errand (some method) (Event.besides ((c.call installed cluster method request).2.events ++
      (c.call installed cluster method request).1.close.2.events)) := by
  cases installed with
  | false =>
    rw [call_of_missing closed, close, closed]
    exact .nothing
  | true =>
    have reached : c.reaches true = true := by rw [reaches, named, Bool.and_self, Bool.or_true]
    obtain ⟨line, found⟩ := Option.isSome_iff_exists.mp named
    rw [call_of_reaches reached, acquire_of_installed closed, found]
    exact .request rfl c.options.toDocument request.index request.body

end Connection

namespace Execution

variable {c : Connection} {q : Query} {groups : Store}

private theorem besides_compiled : Event.besides (compiled q groups).events = [] :=
  Event.besides_logged _

theorem errand_executeClosing (q : Query) (groups : Store) (closed : c.isOpen = false)
    (named : c.options.hostLine?.isSome = true) (installed : Bool) (cluster : Cluster) :
    Errand (some q.method)
      (Event.besides (executeClosing q groups (.connected c) installed cluster).2.events) := by
  -- what is closed is the connection as the run leaves it, also when the run fails
  have parts : (executeClosing q groups (.connected c) installed cluster).2.events =
      (execute q groups (.connected c) installed cluster).2.events ++
        (execute q groups (.connected c) installed cluster).1.close.2.events := rfl
  rw [parts]
  cases made : (q.request groups).result with
  | error failure =>
    rw [execute_of_refused made, Event.besides_append, besides_compiled, Client.close, Connection.close,
      closed]
    exact .nothing
  | ok request =>
    obtain ⟨records, ran⟩ := execute_of_compiled (.connected c) installed cluster made
    have errand := Connection.errand_call closed named installed cluster request.method request
    rw [ran, Query.method_of_request made]
    simp only [Event.besides_append, besides_compiled, Event.besides_logged, List.nil_append,
      List.append_nil] at errand ⊢
    exact errand

end Execution

namespace CommandLine

variable {w : World} {arguments : Arguments} {settings : Settings} {document : List (Value × Value)}
  {index : Value}

/-- The method by which a command sends its request; compiling sends none. -/
def Command.method? : Command → Option Method
  | .compile => none
  | .count => some .count
  | .search => some .search

/-- With its arguments and settings a run comes to an outcome: its document is read, and the query is run by
the method of its command. -/
inductive Yields (w : World) (arguments : Arguments) (settings : Settings) : Outcome → Prop
  | ran {counts : Bool} {document : List (Value × Value)} {outcome : Outcome}
      (mode : arguments.command.method? = some (if counts then .count else .search))
      (read : loadDocument w arguments.file = .ok document)
      (done : (execute w counts document (indexOf arguments document) settings).result = .ok outcome) :
      Yields w arguments settings outcome

/-- A trace does its errand and then prints lines. Where it fails it has printed none, or those of an outcome
before one that cannot be printed. -/
structure Orderly {α : Type} (w : World) (arguments : Arguments) (settings : Settings) (trace : Trace Event α)
    (done : List Event) (lines : List String) : Prop where
  errand : Errand arguments.command.method? done
  events : Event.besides trace.events = done ++ lines.map .printed
  failed : ∀ failure, trace.result = .error failure →
    lines = [] ∨ ∃ outcome, Yields w arguments settings outcome ∧ Stops w outcome.shown lines failure

private theorem besides_compile : Event.besides (compile document index settings).events = [] :=
  Trace.events_lift_bind (P := fun events => Event.besides events = []) rfl fun _ _ =>
    Event.besides_logged _

/-- The mode of the command is that of the query, whatever its document says. -/
private theorem errand_execute (w : World) (counts : Bool) (document : List (Value × Value)) (index : Value)
    (settings : Settings) : Errand (some (if counts then .count else .search))
      (Event.besides (execute w counts document index settings).events) := by
  refine Trace.events_lift_bind (P := fun events => Errand _ (Event.besides events)) .nothing
    fun built _ => ?_
  have named := Connection.isSome_hostLine? settings.cluster
  have errand := Execution.errand_executeClosing (c := .make (.ofSettings settings.cluster))
    (built.2.setCount (.bool counts)) built.1 rfl named w.installed w.cluster
  cases counts with
  | true => exact errand
  | false => exact errand

private theorem orderly_compile : ∃ done lines, Orderly w arguments settings
    (perform w .compile document index settings) done lines := by
  have errand : Errand arguments.command.method? [] := .nothing
  unfold perform
  cases compiled : (compile document index settings).result with
  | error failure =>
    rw [Trace.bind_of_error _ compiled]
    exact ⟨[], [], errand, besides_compile, fun _ _ => .inl rfl⟩
  | ok request =>
    rw [Trace.bind_of_ok _ compiled, printAs_indented]
    cases request.toDocument.isWritable with
    | true =>
      refine ⟨[], [Json.indented request.toDocument], errand, ?_, nofun⟩
      rw [Event.besides_append, besides_compile]
      rfl
    | false =>
      refine ⟨[], [], errand, ?_, fun _ _ => .inl rfl⟩
      rw [Event.besides_append, besides_compile]
      rfl

/-- The result of a query is printed behind its errand, line by line. -/
private theorem orderly_execute (counts : Bool)
    (mode : arguments.command.method? = some (if counts then .count else .search))
    (read : loadDocument w arguments.file = .ok document) : ∃ done lines, Orderly w arguments settings
      (execute w counts document (indexOf arguments document) settings >>= fun outcome =>
        printLines w outcome.shown) done lines := by
  have errand := errand_execute w counts document (indexOf arguments document) settings
  rw [← mode] at errand
  cases ran : (execute w counts document (indexOf arguments document) settings).result with
  | error failure =>
    rw [Trace.bind_of_error _ ran]
    exact ⟨_, [], errand, by simp, fun _ _ => .inl rfl⟩
  | ok outcome =>
    rw [Trace.bind_of_ok _ ran]
    rcases shows_or_stops w outcome.shown with each | ⟨lines, failure, stops⟩
    · rw [printLines_of_shows each]
      refine ⟨_, outcome.shown.map Value.display, errand, ?_, nofun⟩
      rw [Event.besides_append, Event.besides_printed]
    · rw [printLines_of_stops stops]
      refine ⟨_, lines, errand, ?_, ?_⟩
      · rw [Event.besides_append, Event.besides_printed]
      · rintro _ ⟨⟩
        exact .inr ⟨outcome, .ran mode read ran, stops⟩

private theorem orderly_perform (settings : Settings) (read : loadDocument w arguments.file = .ok document) :
    ∃ done lines, Orderly w arguments settings
      (perform w arguments.command document (indexOf arguments document) settings) done lines := by
  cases command : arguments.command with
  | compile => exact orderly_compile
  | count => exact orderly_execute true (by rw [command]; rfl) read
  | search => exact orderly_execute false (by rw [command]; rfl) read

/-- Carrying out a command is orderly, and prints nothing without an index. -/
private theorem orderly_carryOut (w : World) (arguments : Arguments) (settings : Settings) :
    ∃ done lines, Orderly w arguments settings (carryOut w arguments settings) done lines ∧
      ((carryOut w arguments settings).result = .ok false → lines = []) := by
  cases read : loadDocument w arguments.file with
  | error failure =>
    rw [carryOut_of_unread read]
    exact ⟨[], [], ⟨.nothing, rfl, fun _ _ => .inl rfl⟩, fun _ => rfl⟩
  | ok document =>
    cases named : (indexOf arguments document).isTruthy with
    | false =>
      rw [carryOut_of_nameless read named]
      exact ⟨[], [], ⟨.nothing, rfl, nofun⟩, fun _ => rfl⟩
    | true =>
      obtain ⟨done, lines, errand, events, failed⟩ := orderly_perform settings read
      rw [carryOut_of_named read named]
      refine ⟨done, lines, ⟨errand, events, fun failure ended => ?_⟩, fun ended => ?_⟩
      · exact failed failure (Result.map_eq_error_iff.mp ended)
      · obtain ⟨_, _, indexed⟩ := Result.map_eq_ok_iff.mp ended
        cases indexed

private theorem conclude_of_stops {threshold : LogThreshold} {trace : Trace Event Bool} {values : List Value}
    {lines : List String} {failure : Failure} (stops : Stops w values lines failure)
    (failed : trace.result = .error failure) :
    (conclude threshold trace).ending = .raised failure := by
  rcases stops.failure_eq with rfl | rfl
  · simp only [conclude, failed]
    rfl
  · simp only [conclude, failed]
    rfl

private theorem besides_conclude (threshold : LogThreshold) (trace : Trace Event Bool) :
    Event.besides (conclude threshold trace).events = Event.besides trace.events := by
  cases ended : trace.result with
  | ok indexed => cases indexed <;> simp only [conclude, ended]
  | error failure =>
    simp only [conclude, ended]
    split
    · rfl
    · simp [Event.besides, Event.outer]
    · rfl

private theorem result_of_ending {threshold : LogThreshold} {trace : Trace Event Bool}
    (ill : (conclude threshold trace).ending ≠ .exit 0) :
    trace.result = .ok false ∨ ∃ failure, trace.result = .error failure := by
  cases ended : trace.result with
  | error failure => exact .inr ⟨failure, rfl⟩
  | ok indexed =>
    cases indexed with
    | false => exact .inl rfl
    | true =>
      simp only [conclude, ended, ne_eq, not_true_eq_false] at ill

private theorem printed_of_besides {r : Run} {asked : Option Method} {done : List Event} {lines : List String}
    (errand : Errand asked done) (events : Event.besides r.events = done ++ lines.map .printed) :
    r.printed = lines := by
  have all : r.printed = { r with events := Event.besides r.events }.printed := by
    simp only [Run.printed, Event.besides, List.filterMap_filter]
    congr 1
    funext event
    cases event <;> rfl
  rw [all, Run.printed, events, List.filterMap_append]
  cases errand <;> simp [List.filterMap_map]

/-- What a run of the program may do. -/
structure Clean (w : World) (words : List String) (r : Run) : Prop where
  /-- Nothing is printed unless the run ends well, or its result is printed up to a line that cannot be. -/
  silent : r.ending ≠ .exit 0 → r.printed = [] ∨ ∃ arguments settings outcome failure,
    Arguments.ofWords words = .ok arguments ∧ loadSettings w arguments.config = .ok settings ∧
      Yields w arguments settings outcome ∧ Stops w outcome.shown r.printed failure ∧
        r.ending = .raised failure
  /-- The command does its errand, and no more than that before it prints. -/
  errand : ∀ arguments, Arguments.ofWords words = .ok arguments →
    ∃ done, Errand arguments.command.method? done ∧ Event.besides r.events = done ++ r.printed.map .printed
  /-- Without a command nothing is done but printing. -/
  idle : (∀ arguments, Arguments.ofWords words ≠ .ok arguments) → r.events = r.printed.map .printed

private theorem clean_runWith (w : World) (read : Arguments.ofWords words = .ok arguments) :
    Clean w words (runWith w arguments) := by
  have early (ending : Ending) (complaints : List String) : Clean w words (.early ending complaints) :=
    ⟨fun _ => .inl rfl, fun _ _ => ⟨[], .nothing, rfl⟩, fun _ => rfl⟩
  unfold runWith
  cases missingConfig? w arguments with
  | some file => exact early _ _
  | none =>
    dsimp only
    split
    · exact early _ _
    · rename_i settings threshold ready
      obtain ⟨done, lines, orderly, unindexed⟩ := orderly_carryOut w arguments settings
      have events := (besides_conclude threshold _).trans orderly.events
      have printed := printed_of_besides orderly.errand events
      refine ⟨fun ill => ?_, fun given same => ?_, fun none => absurd read (none arguments)⟩
      · rw [printed]
        rcases result_of_ending ill with ended | ⟨failure, ended⟩
        · exact .inl (unindexed ended)
        · rcases orderly.failed failure ended with nothing | ⟨outcome, yields, stops⟩
          · exact .inl nothing
          · obtain ⟨_, settled, rest⟩ := Result.bind_eq_ok_iff.mp ready
            obtain ⟨_, _, done⟩ := Result.bind_eq_ok_iff.mp rest
            cases done
            exact .inr ⟨arguments, settings, outcome, failure, read, settled, yields, stops,
              conclude_of_stops stops ended⟩
      · cases read.symm.trans same
        rw [printed]
        exact ⟨done, orderly.errand, events⟩

private theorem clean_tell {text : String} (none : ∀ arguments, Arguments.ofWords words ≠ .ok arguments) :
    Clean w words (tell w text) := by
  cases known : w.canEncode text with
  | false =>
    have told : tell w text = ⟨.raised .unencodable, Option.none, [], []⟩ := by
      simp [tell, printText, known]
    rw [told]
    exact ⟨fun _ => .inl rfl, fun arguments read => absurd read (none arguments), fun _ => rfl⟩
  | true =>
    have told : tell w text = ⟨.exit 0, Option.none, [], [.printed text]⟩ := by
      simp [tell, printText, known]
    rw [told]
    exact ⟨fun ill => absurd rfl ill, fun arguments read => absurd read (none arguments), fun _ => rfl⟩

/-- Whatever a run finds, in its words, in files and variables and in the cluster, it is clean. -/
theorem clean_run (w : World) (words : List String) : Clean w words (run w words) := by
  cases read : Arguments.ofWords words with
  | error halt =>
    have none (arguments : Arguments) : Arguments.ofWords words ≠ .ok arguments := by
      intro given
      cases read.symm.trans given
    rw [run, read]
    cases halt with
    | help => exact clean_tell none
    | version => exact clean_tell none
    | misuse => exact ⟨fun _ => .inl rfl, fun arguments given => absurd given (none arguments), fun _ => rfl⟩
  | ok arguments =>
    have ran : run w words = runWith w arguments := by rw [run, read]
    rw [ran]
    exact clean_runWith w read

/-- The text of a document that names an index and no more. -/
def indexOnlyText : String :=
  "\x7b\"index\": \"node\"\x7d"

def indexOnlyEntries : List (Value × Value) :=
  [(.text "index", .text "node")]

/-- An identifier that is a number of more digits than can be written out. -/
def farIdentifier : Value :=
  .int (.ofNat (10 ^ Numeral.maxDigits))

/-- A cluster that finds two hits, the second with that identifier. -/
def halfPrintable : Cluster :=
  ⟨.value (.ofFields [("hits", .ofFields [("hits",
    .list [.ofFields [("_id", .text "a")], .ofFields [("_id", farIdentifier)]])])]), Cluster.noCount⟩

/-- A world with that document in its only file, over that cluster. -/
def overFarHit : World :=
  .alone indexOnlyText halfPrintable

private theorem parse_indexOnly : Json.parse indexOnlyText = .ok (.map indexOnlyEntries) := by
  have unmarked : (indexOnlyText.toList.head? == some '\ufeff') = false := by decide
  have scanned : Json.scanValue (2 * indexOnlyText.toList.length + 2)
      (Json.Cursor.skipSpace ⟨0, indexOnlyText.toList⟩) = .ok (.map indexOnlyEntries, ⟨17, []⟩) := by
    cbv
  simp only [Json.parse, unmarked, scanned]
  rfl

/-- A search that prints the first of its identifiers goes out in an error over the second. -/
theorem search_prints_and_fails :
    (run overFarHit ["search", "q.json"]).ending = .raised (.badValue .tooLongToWrite) ∧
    (run overFarHit ["search", "q.json"]).printed = ["a"] := by
  have words : Arguments.ofWords ["search", "q.json"] = .ok ⟨.search, some "q.json", none, none, none⟩ := by
    decide
  have read : loadDocument overFarHit (some "q.json") = .ok indexOnlyEntries :=
    read_alone (by decide) parse_indexOnly
  have ran : (execute overFarHit false indexOnlyEntries (.text "node") .standard).result =
      .ok (.identifiers [.text "a", farIdentifier]) := rfl
  have long : farIdentifier.isWritable = false := Numeral.isWritable_ofNat_eq_false (Nat.le_refl _)
  have stops : Stops overFarHit [.text "a", farIdentifier] ["a"] (.badValue .tooLongToWrite) :=
    .later ⟨rfl, by decide⟩ (.unwritable [] long)
  have performed : perform overFarHit .search indexOnlyEntries (.text "node") .standard =
      ⟨(execute overFarHit false indexOnlyEntries (.text "node") .standard).events ++ ["a"].map .printed,
        .error (.badValue .tooLongToWrite)⟩ := by
    rw [perform, Trace.bind_of_ok _ ran, Outcome.shown, printLines_of_stops stops]
  have carried : carryOut overFarHit ⟨.search, some "q.json", none, none, none⟩ .standard =
      ⟨(execute overFarHit false indexOnlyEntries (.text "node") .standard).events ++ ["a"].map .printed,
        .error (.badValue .tooLongToWrite)⟩ := by
    rw [carryOut_of_named read rfl]
    exact congrArg (fun t => (⟨t.events, t.result.map fun _ => true⟩ : Trace Event Bool)) performed
  have errand := errand_execute overFarHit false indexOnlyEntries (.text "node") .standard
  rw [run_standard (w := overFarHit) words loadSettings_alone, carried]
  refine ⟨conclude_of_stops stops rfl, printed_of_besides errand ?_⟩
  rw [besides_conclude, Event.besides_append, Event.besides_printed]

end CommandLine

end SearchFilter
