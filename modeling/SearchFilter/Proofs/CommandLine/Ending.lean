import Mathlib
import SearchFilter.Proofs.CommandLine.OneFile
import SearchFilter.Proofs.CommandLine.Printing
import SearchFilter.Proofs.Declarative.Outcome
import SearchFilter.Proofs.Request.Writable

/-!
How a run ends that compiles a query file. Errors of the library's own, a missing file and a missing index
end it with a code; the other errors leave it as they are. Main statement: which files end a run in which
of these ways.
-/

namespace SearchFilter

theorem Failure.own_or_escapes (failure : Failure) : failure.Own ∨ failure.Escapes ∨
    ∃ subject file, failure = .noFile subject file := by
  cases failure with
  | malformed | unsupported | build | cluster | raised => exact .inl rfl
  | noFile subject file => exact .inr (.inr ⟨subject, file, rfl⟩)
  | _ => exact .inr (.inl ⟨rfl, nofun⟩)

namespace Declarative

variable {entries : List (Value × Value)} {index : Value} {s : Settings} {g : Group}
  {orders : List HitOrder} {window : Option Window}

/-- What a document describes can be written out: the values in its filter, and the window of a search. -/
def Written (entries : List (Value × Value)) (g : Group) (window : Option Window) : Prop :=
  (∀ c ∈ g.conditions, c.value.isWritable = true) ∧
    ((Document.given "count" entries).isTruthy = true ∨ Window.Writable window)

/-- The request that a document asks for can be written out exactly if what the document describes can. -/
theorem Describes.written_iff {request : Request} (described : Describes entries g orders window)
    (named : index.isTruthy = true) (valid : s.Valid)
    (short : Numeral.isWritable s.query.maxResultWindow = true)
    (done : asked entries index s = .ok request) :
    request.toDocument.isWritable = true ↔ Written entries g window := by
  rw [asked_of_describes named valid described] at done
  exact Compiler.isWritable_request short valid (Group.accepted_of_ofDocument described.filter)
    described.range.proper done

end Declarative

namespace CommandLine

variable {w : World} {name : String} {threshold : LogThreshold} {trace : Trace Event Bool}
  {failure : Failure} {entries : List (Value × Value)}

theorem Arguments.ofWords_compile (plain : Piece.ofWord name = .ok (.plain name)) :
    ofWords ["compile", name] = .ok ⟨.compile, some name, none, none, none⟩ := by
  have named : name ≠ "--" := by
    rintro rfl
    revert plain
    decide
  have pieces : Piece.ofWords ["compile", name] = .ok [.plain "compile", .plain name] := by
    have first : Piece.ofWord "compile" = .ok (.plain "compile") := by decide
    simp [Piece.ofWords, named, plain, first]
  have file : Collected.unlessHyphens name = some name := by simp [Collected.unlessHyphens, named]
  have collected : Collected.readFrom ([Piece.plain "compile", .plain name].length + 1) .empty
      [.plain "compile", .plain name] =
        .ok ⟨some .compile, some (Collected.unlessHyphens name), none, none, none, []⟩ := rfl
  rw [file] at collected
  simp only [ofWords, pieces, collected]
  rfl

theorem conclude_of_request (done : trace.result = .ok true) :
    (conclude threshold trace).ending = .exit 0 := by
  simp only [conclude, done]

theorem conclude_of_no_index (done : trace.result = .ok false) :
    (conclude threshold trace).ending = .exit 1 ∧
      (conclude threshold trace).complaints = [noIndexLine] := by
  simp only [conclude, done, and_self]

theorem conclude_of_no_file {subject file : String}
    (failed : trace.result = .error (.noFile subject file)) :
    (conclude threshold trace).ending = .exit 1 := by
  simp only [conclude, failed]

theorem conclude_of_own (failed : trace.result = .error failure) (own : failure.Own) :
    (conclude threshold trace).ending = .exit 2 ∧
      (conclude threshold trace).complaints = ["Error: " ++ failure.message] := by
  obtain ⟨kind, known⟩ := Option.isSome_iff_exists.mp own
  have there (subject file : String) : failure ≠ .noFile subject file := by
    rintro rfl
    cases known
  simp only [conclude, failed, known, and_self]

theorem conclude_of_escapes (failed : trace.result = .error failure) (escapes : failure.Escapes) :
    (conclude threshold trace).ending = .raised failure := by
  have there := escapes.2
  simp only [conclude, failed, escapes.1]

/-- The index that a document gives. -/
def indexIn (entries : List (Value × Value)) : Value :=
  Document.given "index" entries

/-- The request that a document asks for is printed, if it can be written out. -/
def printed (asked : Except Failure Request) : Except Failure Bool :=
  asked >>= fun request =>
    if request.toDocument.isWritable then .ok true else .error (.badValue .tooLongToWrite)

theorem result_perform {index : Value} {s : Settings} :
    (perform w .compile entries index s).result.map (fun _ => true) =
      printed (Declarative.asked entries index s) := by
  have built : (compile entries index s).result = Declarative.asked entries index s := by
    rw [compile, Trace.result_bind, Trace.result_lift]
    rfl
  rw [perform, Trace.result_bind, built, printed]
  cases Declarative.asked entries index s with
  | error failure => rfl
  | ok request =>
    rw [Result.ok_bind, Result.ok_bind, printAs_indented]
    cases request.toDocument.isWritable <;> rfl

/-- What compiling a file comes to: its document is read, and needs an index. -/
theorem result_carryOut : (carryOut w ⟨.compile, some name, none, none, none⟩ .standard).result =
    QueryFile.read w.folder name >>= fun entries =>
      if (indexIn entries).isTruthy then printed (Declarative.asked entries (indexIn entries) .standard)
      else .ok false := by
  change _ = loadDocument w (Arguments.mk .compile (some name) none none none).file >>= _
  cases read : loadDocument w (Arguments.mk .compile (some name) none none none).file with
  | error failure =>
    rw [carryOut_of_unread read]
    rfl
  | ok entries =>
    rw [Result.ok_bind]
    cases named : (indexIn entries).isTruthy with
    | false =>
      rw [carryOut_of_nameless read named]
      rfl
    | true =>
      rw [carryOut_of_named read named, if_pos rfl]
      exact result_perform

private theorem run_compile (plain : Piece.ofWord name = .ok (.plain name))
    (defaults : loadSettings w none = .ok .standard) : ∃ threshold, run w ["compile", name] =
      conclude threshold (carryOut w ⟨.compile, some name, none, none, none⟩ .standard) :=
  ⟨_, run_standard (Arguments.ofWords_compile plain) defaults⟩

/-- A file ends a run in an error that escapes: as it is read, in what its document asks for, or because the
request of its document cannot be written out. -/
inductive Astray (folder : Folder) (name : String) : Prop
  | unread {failure : Failure} (failed : QueryFile.read folder name = .error failure)
      (escapes : failure.Escapes)
  | broken {entries : List (Value × Value)} (read : QueryFile.read folder name = .ok entries)
      (named : (indexIn entries).isTruthy = true)
      (breaks : Declarative.Breaks Compiler.defaultWindow entries (indexIn entries))
  | unwritten {entries : List (Value × Value)} {g : Group} {orders : List HitOrder}
      {window : Option Window} (read : QueryFile.read folder name = .ok entries)
      (named : (indexIn entries).isTruthy = true)
      (asks : Declarative.Requests Compiler.defaultWindow entries (indexIn entries))
      (described : Declarative.Describes entries g orders window)
      (long : ¬ Declarative.Written entries g window)

/-- A file ends a run with a code: the request of its document is written out, there is no index or no file,
or else what is there is no query. -/
inductive Exits (folder : Folder) (name : String) : Nat → Prop
  | request {entries : List (Value × Value)} {g : Group} {orders : List HitOrder}
      {window : Option Window} (read : QueryFile.read folder name = .ok entries)
      (named : (indexIn entries).isTruthy = true)
      (asks : Declarative.Requests Compiler.defaultWindow entries (indexIn entries))
      (described : Declarative.Describes entries g orders window)
      (written : Declarative.Written entries g window) : Exits folder name 0
  | unindexed {entries : List (Value × Value)} (read : QueryFile.read folder name = .ok entries)
      (unnamed : (indexIn entries).isTruthy = false) : Exits folder name 1
  | absent {subject file : String}
      (failed : QueryFile.read folder name = .error (.noFile subject file)) : Exits folder name 1
  | refused {entries : List (Value × Value)} (read : QueryFile.read folder name = .ok entries)
      (named : (indexIn entries).isTruthy = true)
      (asks : ¬ Declarative.Requests Compiler.defaultWindow entries (indexIn entries))
      (sound : ¬ Declarative.Breaks Compiler.defaultWindow entries (indexIn entries)) : Exits folder name 2
  | unread {failure : Failure} (failed : QueryFile.read folder name = .error failure)
      (own : failure.Own) : Exits folder name 2

private theorem ends_of_named (named : (indexIn entries).isTruthy = true) :
    Declarative.Ends Compiler.defaultWindow entries (indexIn entries)
      (Declarative.asked entries (indexIn entries) .standard) :=
  Declarative.asked_ends named Settings.valid_standard

/-- Each file ends a run in one of these ways. -/
theorem exits_or_astray (folder : Folder) (name : String) :
    (∃ code, Exits folder name code) ∨ Astray folder name := by
  cases read : QueryFile.read folder name with
  | error failure =>
    rcases failure.own_or_escapes with own | escapes | ⟨subject, file, rfl⟩
    · exact .inl ⟨2, .unread read own⟩
    · exact .inr (.unread read escapes)
    · exact .inl ⟨1, .absent read⟩
  | ok entries =>
    cases named : (indexIn entries).isTruthy with
    | false => exact .inl ⟨1, .unindexed read named⟩
    | true =>
      have ends := ends_of_named named
      generalize Declarative.asked entries (indexIn entries) .standard = asked at ends
      cases ends with
      | request asks =>
        obtain ⟨g, orders, window, described, _⟩ := id asks
        by_cases written : Declarative.Written entries g window
        · exact .inl ⟨0, .request read named asks described written⟩
        · exact .inr (.unwritten read named asks described written)
      | refused _ asks sound => exact .inl ⟨2, .refused read named asks sound⟩
      | broken _ _ breaks => exact .inr (.broken read named breaks)

private theorem result_of_failed (failed : QueryFile.read w.folder name = .error failure) :
    (carryOut w ⟨.compile, some name, none, none, none⟩ .standard).result = .error failure := by
  rw [result_carryOut, failed, Result.error_bind]

private theorem result_of_read (read : QueryFile.read w.folder name = .ok entries)
    (named : (indexIn entries).isTruthy = true) : ∃ asked,
    Declarative.asked entries (indexIn entries) .standard = asked ∧
      Declarative.Ends Compiler.defaultWindow entries (indexIn entries) asked ∧
      (carryOut w ⟨.compile, some name, none, none, none⟩ .standard).result = printed asked :=
  ⟨_, rfl, ends_of_named named, by rw [result_carryOut, read, Result.ok_bind, if_pos named]⟩

/-- The request of a document is printed if it can be written out, and else fails with the integer that
cannot. -/
private theorem result_of_requests {g : Group} {orders : List HitOrder} {window : Option Window}
    (read : QueryFile.read w.folder name = .ok entries) (named : (indexIn entries).isTruthy = true)
    (asks : Declarative.Requests Compiler.defaultWindow entries (indexIn entries))
    (described : Declarative.Describes entries g orders window) : ∃ written : Bool,
    (written = true ↔ Declarative.Written entries g window) ∧
      (carryOut w ⟨.compile, some name, none, none, none⟩ .standard).result =
        if written then .ok true else .error (.badValue .tooLongToWrite) := by
  obtain ⟨_, done, ends, ran⟩ := result_of_read read named
  cases ends with
  | @request request => exact ⟨_, described.written_iff named Settings.valid_standard (by decide) done, ran⟩
  | refused _ none => exact absurd asks none
  | broken _ none => exact absurd asks none

private theorem ending_of_exits (threshold : LogThreshold) {code : Nat} (exits : Exits w.folder name code) :
    let r := conclude threshold (carryOut w ⟨.compile, some name, none, none, none⟩ .standard)
    r.ending = .exit code ∧ (code = 2 → ∃ failure : Failure, failure.Own ∧
      r.complaints = ["Error: " ++ failure.message]) := by
  cases exits with
  | request read named asks described written =>
    obtain ⟨can, iff, ran⟩ := result_of_requests read named asks described
    rw [if_pos (iff.mpr written)] at ran
    exact ⟨conclude_of_request ran, nofun⟩
  | unindexed read unnamed =>
    have done : (carryOut w ⟨.compile, some name, none, none, none⟩ .standard).result = .ok false := by
      rw [result_carryOut, read, Result.ok_bind, unnamed]
      rfl
    exact ⟨(conclude_of_no_index done).1, nofun⟩
  | absent failed => exact ⟨conclude_of_no_file (result_of_failed failed), nofun⟩
  | refused read named asks sound =>
    obtain ⟨_, _, ends, done⟩ := result_of_read read named
    cases ends with
    | request some => exact absurd some asks
    | refused own =>
      obtain ⟨ending, line⟩ := conclude_of_own done own
      exact ⟨ending, fun _ => ⟨_, own, line⟩⟩
    | broken _ _ breaks => exact absurd breaks sound
  | unread failed own =>
    obtain ⟨ending, line⟩ := conclude_of_own (result_of_failed failed) own
    exact ⟨ending, fun _ => ⟨_, own, line⟩⟩

private theorem ending_of_astray (threshold : LogThreshold) (astray : Astray w.folder name) : ∃ failure,
    (conclude threshold (carryOut w ⟨.compile, some name, none, none, none⟩ .standard)).ending =
      .raised failure := by
  cases astray with
  | unread failed escapes => exact ⟨_, conclude_of_escapes (result_of_failed failed) escapes⟩
  | broken read named breaks =>
    obtain ⟨_, _, ends, done⟩ := result_of_read read named
    cases ends with
    | request _ sound => exact absurd breaks sound
    | refused _ _ sound => exact absurd breaks sound
    | broken escapes => exact ⟨_, conclude_of_escapes done escapes⟩
  | unwritten read named asks described long =>
    obtain ⟨can, iff, ran⟩ := result_of_requests read named asks described
    rw [if_neg (mt iff.mp long)] at ran
    exact ⟨_, conclude_of_escapes ran ⟨rfl, nofun⟩⟩

/-- A run that compiles a file, with nothing else given, ends with a code exactly if the file says so, and
goes out in an error exactly if the file is astray. Where the file holds no query it says why. -/
theorem compile_ends (plain : Piece.ofWord name = .ok (.plain name))
    (defaults : loadSettings w none = .ok .standard) :
    (∀ code, (run w ["compile", name]).ending = .exit code ↔ Exits w.folder name code) ∧
    ((∃ failure, (run w ["compile", name]).ending = .raised failure) ↔ Astray w.folder name) ∧
    ((run w ["compile", name]).ending = .exit 2 →
      ∃ failure : Failure, failure.Own ∧
        (run w ["compile", name]).complaints = ["Error: " ++ failure.message]) := by
  obtain ⟨threshold, ran⟩ := run_compile plain defaults
  rw [ran]
  have codes (code : Nat) : (conclude threshold (carryOut w ⟨.compile, some name, none, none, none⟩
      .standard)).ending = .exit code ↔ Exits w.folder name code := by
    constructor
    · intro ended
      rcases exits_or_astray w.folder name with ⟨other, exits⟩ | astray
      · have same := (ending_of_exits threshold exits).1.symm.trans ended
        cases same
        exact exits
      · obtain ⟨failure, raised⟩ := ending_of_astray threshold astray
        cases raised.symm.trans ended
    · exact fun exits => (ending_of_exits threshold exits).1
  refine ⟨codes, ⟨?_, ending_of_astray threshold⟩, ?_⟩
  · rintro ⟨failure, raised⟩
    rcases exits_or_astray w.folder name with ⟨code, exits⟩ | astray
    · cases raised.symm.trans ((codes code).mpr exits)
    · exact astray
  · intro ended
    exact (ending_of_exits threshold ((codes 2).mp ended)).2 rfl

/-- The text of a document that sorts by a number. -/
def unsortableText : String :=
  "\x7b\"index\": \"node\", \"sort\": 5\x7d"

def unsortableEntries : List (Value × Value) :=
  [(.text "index", .text "node"), (.text "sort", .int 5)]

/-- A world with that document in its only file. -/
def unsortable : World :=
  .alone unsortableText .vacant

private theorem parse_unsortable : Json.parse unsortableText = .ok (.map unsortableEntries) := by
  have unmarked : (unsortableText.toList.head? == some '\ufeff') = false := by decide
  have scanned : Json.scanValue (2 * unsortableText.toList.length + 2)
      (Json.Cursor.skipSpace ⟨0, unsortableText.toList⟩) = .ok (.map unsortableEntries, ⟨28, []⟩) := by
    cbv
  simp only [Json.parse, unmarked, scanned]
  rfl

private theorem read_unsortable : QueryFile.read unsortable.folder "q.json" = .ok unsortableEntries :=
  read_alone (by decide) parse_unsortable

private theorem astray_unsortable : Astray unsortable.folder "q.json" :=
  .broken read_unsortable rfl (.unlisted (g := ⟨.and, []⟩) rfl rfl)

/-- A run goes out in an error over a document that sorts by a number, and its settings are standard. -/
theorem compile_ends_unsortable : Piece.ofWord "q.json" = .ok (.plain "q.json") ∧
    loadSettings unsortable none = .ok .standard ∧
    ∃ failure, (run unsortable ["compile", "q.json"]).ending = .raised failure :=
  ⟨by decide, loadSettings_alone,
    (compile_ends (by decide) loadSettings_alone).2.1.mpr astray_unsortable⟩

/-- Not every file with a document in it ends a run with a code. -/
theorem compile_raises_unsortable : ¬ ∀ (w : World) (name : String) (entries : List (Value × Value)),
    Piece.ofWord name = .ok (.plain name) → loadSettings w none = .ok .standard →
      QueryFile.read w.folder name = .ok entries →
        ∃ code ≤ 2, (run w ["compile", name]).ending = .exit code := by
  intro always
  have plain : Piece.ofWord "q.json" = .ok (.plain "q.json") := by decide
  obtain ⟨code, _, ended⟩ := always unsortable "q.json" _ plain loadSettings_alone read_unsortable
  obtain ⟨threshold, ran⟩ := run_compile (w := unsortable) plain loadSettings_alone
  obtain ⟨failure, raised⟩ := ending_of_astray threshold astray_unsortable
  rw [ran] at ended
  cases raised.symm.trans ended

end CommandLine

end SearchFilter
