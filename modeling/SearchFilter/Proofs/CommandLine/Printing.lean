import SearchFilter.CommandLine
import SearchFilter.Proofs.Json.Ascii

namespace SearchFilter.CommandLine

variable {w : World} {values rest : List Value} {value : Value} {failure : Failure}

/-- A value can be printed: it can be written out, and the output has codes for what is written. -/
def World.Shows (w : World) (value : Value) : Prop :=
  value.isWritable = true ∧ w.canEncode value.display = true

/-- Printing values line by line stops at one of them, with some lines before it, in a failure. -/
inductive Stops (w : World) : List Value → List String → Failure → Prop
  | unwritable {value : Value} (rest : List Value) (long : value.isWritable = false) :
      Stops w (value :: rest) [] (.badValue .tooLongToWrite)
  | unencodable {value : Value} (rest : List Value) (short : value.isWritable = true)
      (none : w.canEncode value.display = false) : Stops w (value :: rest) [] .unencodable
  | later {value : Value} {rest : List Value} {lines : List String} {failure : Failure}
      (shows : w.Shows value) (stops : Stops w rest lines failure) :
      Stops w (value :: rest) (value.display :: lines) failure

theorem Stops.failure_eq {lines : List String} (stops : Stops w values lines failure) :
    failure = .badValue .tooLongToWrite ∨ failure = .unencodable := by
  induction stops with
  | unwritable => exact .inl rfl
  | unencodable => exact .inr rfl
  | later _ _ ih => exact ih

theorem World.canEncode_of_isAscii {text : String} (ascii : Text.IsAscii text) : w.canEncode text = true :=
  List.all_eq_true.mpr fun c member => by simp [ascii c member]

theorem printAs_of_shows (shows : w.Shows value) :
    printAs w Value.display value = Trace.emit (.printed value.display) := by
  rw [printAs, if_pos shows.1, printText, if_pos shows.2]

/-- The document of a request is printed whenever its numbers can be written out: all else in it is told in
ASCII. -/
theorem printAs_indented : printAs w Json.indented value =
    if value.isWritable then Trace.emit (.printed (Json.indented value))
    else .fail (.badValue .tooLongToWrite) := by
  rw [printAs, printText, if_pos (World.canEncode_of_isAscii (Json.isAscii_indented value))]

theorem printLines_of_stops {lines : List String} (stops : Stops w values lines failure) :
    printLines w values = ⟨lines.map .printed, .error failure⟩ := by
  induction stops with
  | unwritable rest long =>
    rw [printLines, printAs, long]
    rfl
  | unencodable rest short none =>
    rw [printLines, printAs, if_pos short, printText, none]
    rfl
  | later shows _ ih =>
    rw [printLines, printAs_of_shows shows, ih]
    rfl

theorem printLines_of_shows (each : ∀ v ∈ values, w.Shows v) :
    printLines w values = ⟨(values.map Value.display).map .printed, .ok ()⟩ := by
  induction values with
  | nil => rfl
  | cons value rest ih =>
    obtain ⟨first, later⟩ := List.forall_mem_cons.mp each
    rw [printLines, printAs_of_shows first, ih later]
    rfl

/-- Printing values stops at the first that cannot be printed, if there is one. -/
theorem shows_or_stops (w : World) (values : List Value) :
    (∀ v ∈ values, w.Shows v) ∨ ∃ lines failure, Stops w values lines failure := by
  induction values with
  | nil => exact .inl (List.forall_mem_nil _)
  | cons value rest ih =>
    cases short : value.isWritable with
    | false => exact .inr ⟨[], _, .unwritable rest short⟩
    | true =>
      cases known : w.canEncode value.display with
      | false => exact .inr ⟨[], _, .unencodable rest short known⟩
      | true =>
        rcases ih with each | ⟨lines, failure, stops⟩
        · exact .inl (List.forall_mem_cons.mpr ⟨⟨short, known⟩, each⟩)
        · exact .inr ⟨_, failure, .later ⟨short, known⟩ stops⟩

end SearchFilter.CommandLine
