import Mathlib
import SearchFilter.CommandLine
import SearchFilter.Proofs.Declarative.Building
import SearchFilter.Proofs.Folder

namespace SearchFilter

/-- The settings when nothing is given. -/
def Settings.standard : Settings :=
  ⟨defaultCluster, defaultQuery, defaultObservability⟩

theorem Settings.valid_standard : Settings.standard.Valid := by
  change (1 : Int) ≤ Compiler.defaultWindow
  decide

private theorem splitOnAux_of_clear {s : String} {n k : Nat} (clear : ∀ k < s.utf8ByteSize,
    (String.Pos.Raw.get s ⟨k⟩ == '/') = false ∧ String.Pos.Raw.next s ⟨k⟩ = ⟨k + 1⟩)
    (left : k + n = s.utf8ByteSize) :
    s.splitOnAux "/" 0 ⟨k⟩ 0 [] = [String.Pos.Raw.extract s 0 ⟨s.utf8ByteSize⟩] := by
  induction n generalizing k with
  | zero =>
    have ended : String.Pos.Raw.atEnd s ⟨k⟩ = true := by simp [String.Pos.Raw.atEnd, ← left]
    rw [String.splitOnAux, if_pos ended, ← left]
    rfl
  | succ n ih =>
    have inside : String.Pos.Raw.atEnd s ⟨k⟩ = false := by
      simp only [String.Pos.Raw.atEnd, decide_eq_false_iff_not]
      omega
    obtain ⟨other, moves⟩ := clear k (by omega)
    have slash : String.Pos.Raw.get "/" 0 = '/' := by decide
    have next : String.Pos.Raw.next s (String.Pos.Raw.unoffsetBy ⟨k⟩ 0) = ⟨k + 1⟩ := moves
    rw [String.splitOnAux, inside, slash, other]
    simp only [Bool.false_eq_true, if_false, next]
    exact ih (by omega)

namespace CommandLine

/-- A world with a text in its only file, and a cluster. -/
def World.alone (text : String) (cluster : Cluster) : World :=
  ⟨[⟨⟨0, ["q.json"]⟩, text.toUTF8.data.toList⟩], [], cluster, true, fun _ => true⟩

variable {w : World} {text : String} {cluster : Cluster} {entries : List (Value × Value)}

private theorem location_alone : Location.ofText "q.json" = ⟨0, ["q.json"]⟩ := by
  have clear : ∀ k < "q.json".utf8ByteSize, (String.Pos.Raw.get "q.json" ⟨k⟩ == '/') = false ∧
      String.Pos.Raw.next "q.json" ⟨k⟩ = ⟨k + 1⟩ := by decide
  have whole : "q.json".splitOn "/" = ["q.json"] :=
    (splitOnAux_of_clear (n := 6) (k := 0) clear rfl).trans (by decide)
  simp only [Location.ofText, whole]
  decide

private theorem location_dotenv : Location.ofText ".env" = ⟨0, [".env"]⟩ := by
  have clear : ∀ k < ".env".utf8ByteSize, (String.Pos.Raw.get ".env" ⟨k⟩ == '/') = false ∧
      String.Pos.Raw.next ".env" ⟨k⟩ = ⟨k + 1⟩ := by decide
  have whole : ".env".splitOn "/" = [".env"] :=
    (splitOnAux_of_clear (n := 4) (k := 0) clear rfl).trans (by decide)
  simp only [Location.ofText, whole]
  decide

theorem loadSettings_alone : loadSettings (.alone text cluster) none = .ok .standard := by
  have nothing : (World.alone text cluster).folder.entryAt (.ofText ".env") = .nothing := by
    rw [location_dotenv]
    rfl
  simp only [loadSettings, World.surroundings, given?, nothing]
  rfl

theorem read_alone (clear : '\r' ∉ text.toList) (parsed : Json.parse text = .ok (.map entries)) :
    QueryFile.read (World.alone text cluster).folder "q.json" = .ok entries := by
  have file : (World.alone text cluster).folder.textOf "Query file" (.ofText "q.json") = .ok text := by
    rw [location_alone]
    exact Folder.textOf_of_file rfl clear
  have json : ((Location.ofText "q.json").suffix.toLower == ".json") = true := by
    have suffix : (Location.mk 0 ["q.json"]).suffix = ".json" := by decide
    rw [location_alone, suffix, beq_iff_eq, ← String.toList_inj, String.toLower, String.toList_map]
    decide
  have value : QueryFile.readJson (Location.ofText "q.json").text text = .ok (.map entries) := by
    rw [QueryFile.readJson, parsed]
  rw [QueryFile.read]
  simp only [file, Result.ok_bind, json, if_true, value]
  rfl

private theorem thresholdOf_standard {arguments : Arguments} (silent : arguments.level = none) :
    thresholdOf arguments .standard = .ok ⟨some .info⟩ := by
  have upper : String.ofList (Text.upper "info".toList) = "INFO" := by decide
  have named : (arguments.level.map LogLevel.name).getD Settings.standard.observability.logLevel = "info" := by
    rw [silent]
    rfl
  simp only [thresholdOf, named, LogThreshold.ofName, upper]
  rfl

/-- A run that is given a command and a file, and nothing else, carries out the command with the standard
settings. -/
theorem run_standard {words : List String} {command : Command} {file : Option String}
    (read : Arguments.ofWords words = .ok ⟨command, file, none, none, none⟩)
    (defaults : loadSettings w none = .ok .standard) : run w words =
      conclude ⟨some .info⟩ (carryOut w ⟨command, file, none, none, none⟩ .standard) := by
  have config : missingConfig? w ⟨command, file, none, none, none⟩ = none := rfl
  rw [run, read]
  simp only [runWith, config, defaults, thresholdOf_standard, Result.ok_bind]
  rfl

end CommandLine

end SearchFilter
