import SearchFilter.CommandLine.Arguments
import SearchFilter.CommandLine.Help
import SearchFilter.Declarative
import SearchFilter.Json.Printer
import SearchFilter.LogThreshold
import SearchFilter.QueryFile
import SearchFilter.Settings.File

/-!
The program: it reads a query file, then prints the request or runs it and prints what comes of it, line
by line. Errors of the library end it with a code and a line; all others go out as they are, among them
those of printing.
-/

namespace SearchFilter.CommandLine

/-- What a run finds outside: files, variables, the cluster, whether its driver is there, and which
characters beyond ASCII its output has codes for. -/
structure World where
  folder : Folder
  environment : List (String × String)
  cluster : Cluster
  installed : Bool
  encodes : Char → Bool

/-- How a run ends. -/
inductive Ending
  | exit (code : Nat)
  | raised (failure : Failure)
  deriving Repr

/-- A run: how it ended, from which severity it logged if it came so far, what it complained of, and what
it did to the outside. -/
structure Run where
  ending : Ending
  threshold : Option LogThreshold
  complaints : List String
  events : List Event
  deriving Repr

namespace Run

/-- A run that ends before anything is done. -/
def early (ending : Ending) (complaints : List String) : Run :=
  ⟨ending, none, complaints, []⟩

/-- The texts that the run prints, each on lines of its own. -/
def printed (r : Run) : List String :=
  r.events.filterMap fun
    | .printed text => some text
    | _ => none

/-- The records that the run shows. -/
def shown (r : Run) : List LogRecord :=
  r.events.filterMap fun
    | .logged record =>
      if r.threshold.any (·.shows record) then some record else none
    | _ => none

end Run

/-- The variables that a file of variables in the folder adds. -/
def World.surroundings (w : World) : Except Failure Surroundings :=
  match w.folder.entryAt (.ofText ".env") with
  | .file content => (Folder.decode content).map fun text => ⟨w.environment, some text⟩
  | _ => .ok ⟨w.environment, none⟩

/-- A text that says something. -/
def given? (text : Option String) : Option String :=
  text.filter (!·.isEmpty)

/-- The settings of a run: those of a file if one is given. -/
def loadSettings (w : World) (config : Option String) : Except Failure Settings := do
  match given? config with
  | none => Settings.load (← w.surroundings) []
  | some name =>
    let text ← w.folder.textOf "Config file" (.ofText name)
    let given ← Settings.fileValue text
    Settings.loadValue (← w.surroundings) given

/-- The threshold of a run: the level that is asked for, else that of the settings. -/
def thresholdOf (arguments : Arguments) (settings : Settings) : Except Failure LogThreshold :=
  LogThreshold.ofName ((arguments.level.map LogLevel.name).getD settings.observability.logLevel)

/-- Whether the output has codes for all characters of a text. -/
def World.canEncode (w : World) (text : String) : Bool :=
  text.toList.all fun c => c.toNat < 128 || w.encodes c

/-- Prints a text. Nothing of it is printed if one of its characters has no code. -/
def printText (w : World) (text : String) : Trace Event Unit :=
  if w.canEncode text then Trace.emit (.printed text) else .fail .unencodable

/-- Prints the text of a value, as its writer makes it. -/
def printAs (w : World) (write : Value → String) (value : Value) : Trace Event Unit :=
  if value.isWritable then printText w (write value) else .fail (.badValue .tooLongToWrite)

/-- Prints values, each on a line, up to the first that cannot be printed. -/
def printLines (w : World) : List Value → Trace Event Unit
  | [] => pure ()
  | value :: rest => do
    printAs w Value.display value
    printLines w rest

/-- The request of a query. -/
def compile (document : List (Value × Value)) (index : Value) (settings : Settings) :
    Trace Event Request := do
  let (groups, query) ← Trace.lift (Declarative.build (.map document) index (some settings))
  (query.request groups).mapEvents Event.logged

/-- Runs a query as a search or as a count, whatever the document says. -/
def execute (w : World) (counts : Bool) (document : List (Value × Value)) (index : Value)
    (settings : Settings) : Trace Event Outcome := do
  let (groups, query) ← Trace.lift (Declarative.build (.map document) index (some settings))
  let query := query.setCount (.bool counts)
  let client := Client.connected (.make (.ofSettings settings.cluster))
  (Execution.executeClosing query groups client w.installed w.cluster).2

/-- The document of a query file. Without a file's name there is nothing to read. -/
def loadDocument (w : World) (file : Option String) : Except Failure (List (Value × Value)) :=
  match file with
  | some name => QueryFile.read w.folder name
  | none => .error .wrongType

/-- The index that is given, else that of the document. -/
def indexOf (arguments : Arguments) (document : List (Value × Value)) : Value :=
  match given? arguments.index with
  | some index => .text index
  | none => (Value.lookup? "index" document).getD .null

def noIndexLine : String :=
  "Error: No index given (use --index or an 'index' key)"

/-- Carries out a command over a document and its index, and prints what comes of it. -/
def perform (w : World) (command : Command) (document : List (Value × Value)) (index : Value)
    (settings : Settings) : Trace Event Unit :=
  match command with
  | .compile => do
    let request ← compile document index settings
    printAs w Json.indented request.toDocument
  | .count => do
    let outcome ← execute w true document index settings
    printLines w outcome.shown
  | .search => do
    let outcome ← execute w false document index settings
    printLines w outcome.shown

/-- Carries out the command, once there are settings, and says whether there was an index for it. -/
def carryOut (w : World) (arguments : Arguments) (settings : Settings) : Trace Event Bool := do
  let document ← Trace.lift (loadDocument w arguments.file)
  let index := indexOf arguments document
  if !index.isTruthy then pure false
  else
    perform w arguments.command document index settings
    pure true

section CarryOut

variable {w : World} {arguments : Arguments} {settings : Settings} {document : List (Value × Value)}

theorem carryOut_of_unread {failure : Failure} (failed : loadDocument w arguments.file = .error failure) :
    carryOut w arguments settings = .fail failure := by
  rw [carryOut, failed]
  rfl

theorem carryOut_of_nameless (read : loadDocument w arguments.file = .ok document)
    (nameless : (indexOf arguments document).isTruthy = false) :
    carryOut w arguments settings = pure false := by
  rw [carryOut, read, Trace.bind_of_ok _ rfl]
  simp only [nameless]
  rfl

theorem carryOut_of_named (read : loadDocument w arguments.file = .ok document)
    (named : (indexOf arguments document).isTruthy = true) :
    carryOut w arguments settings =
      ⟨(perform w arguments.command document (indexOf arguments document) settings).events,
        (perform w arguments.command document (indexOf arguments document) settings).result.map
          fun _ => true⟩ := by
  rw [carryOut, read, Trace.bind_of_ok _ rfl]
  simp only [named, Bool.not_true, Bool.false_eq_true, if_false]
  rw [Trace.events_bind_pure, Trace.result_bind]
  cases (perform w arguments.command document (indexOf arguments document) settings).result <;> rfl

end CarryOut

/-- The end of a run after its command: errors of the library are logged as well. -/
def conclude (threshold : LogThreshold) (trace : Trace Event Bool) : Run :=
  match trace.result with
  | .ok true => ⟨.exit 0, some threshold, [], trace.events⟩
  | .ok false => ⟨.exit 1, some threshold, [noIndexLine], trace.events⟩
  | .error failure =>
    let line := "Error: " ++ failure.message
    match failure, failure.kind? with
    | .noFile .., _ => ⟨.exit 1, some threshold, [line], trace.events⟩
    | _, some _ =>
      let record : LogRecord := ⟨.error, .commandLine, "Query failed: " ++ failure.message⟩
      ⟨.exit 2, some threshold, [line], trace.events ++ [.logged record]⟩
    | _, none => ⟨.raised failure, some threshold, [], trace.events⟩

/-- Whether a file of settings is asked for that is not there. -/
def missingConfig? (w : World) (arguments : Arguments) : Option String :=
  match given? arguments.config with
  | none => none
  | some name =>
    let location := Location.ofText name
    match w.folder.entryAt location with
    | .nothing => some location.text
    | _ => none

/-- A run with arguments. -/
def runWith (w : World) (arguments : Arguments) : Run :=
  match missingConfig? w arguments with
  | some file => .early (.exit 1) ["Error: " ++ (Failure.noFile "Config file" file).message]
  | none =>
    let ready := do
      let settings ← loadSettings w arguments.config
      pure (settings, ← thresholdOf arguments settings)
    match ready with
    | .error failure => .early (.raised failure) []
    | .ok (settings, threshold) => conclude threshold (carryOut w arguments settings)

/-- A run that tells something and ends. -/
def tell (w : World) (text : String) : Run :=
  let trace := printText w text
  match trace.result with
  | .ok _ => ⟨.exit 0, none, [], trace.events⟩
  | .error failure => ⟨.raised failure, none, [], trace.events⟩

/-- A run with the words of a command line. -/
def run (w : World) (words : List String) : Run :=
  match Arguments.ofWords words with
  | .error .help => tell w ("\n".intercalate helpLines)
  | .error .version => tell w versionLine
  | .error (.misuse cause) =>
    .early (.exit 2) (usageLines ++ [programName ++ ": error: " ++ cause.message])
  | .ok arguments => runWith w arguments

end SearchFilter.CommandLine
