import Mathlib
import SearchFilter.Proofs.Folder
import SearchFilter.Proofs.Settings.File
import SearchFilter.Proofs.Settings.Reading
import SearchFilter.Proofs.Settings.Variable

/-!
Where each setting is taken from. Main statement: whatever a file, the environment and a file of variables give,
each setting is read, on its own, out of the first of them that gives it, and is its default if none does.
-/

namespace SearchFilter

open Layers (Entries Variables Sectioned IsMapping leaf? overlay overlayValue)

variable {x : Setting} {given : Entries} {around : Surroundings}

theorem Layers.givenLayer_of_sectioned (sectioned : Sectioned given) : givenLayer given = given := by
  unfold givenLayer
  refine (List.map_congr_left fun entry member => ?_).trans given.map_id
  obtain ⟨s, fields, rfl, _⟩ := sectioned.known entry member
  have lower : s.name.toLower = s.name := Text.toLower_eq (by cases s <;> decide)
  have there : Value.lookup? s.name given ≠ none := fun absent =>
    Value.lookup?_eq_none_iff.mp absent _ member rfl
  obtain ⟨v, found⟩ := Option.ne_none_iff_exists'.mp there
  simp [lower, found]

namespace Surroundings

/-- The variables of the environment. -/
def outside (around : Surroundings) : Variables :=
  around.environment.map fun entry => (entry.1, some entry.2)

/-- The variables of the file of variables, if there is one. -/
def inFile (around : Surroundings) : Variables :=
  match around.dotenv with
  | some text => Dotenv.assignments around.environment text
  | none => []

end Surroundings

namespace Setting

/-- What is offered for a setting: by a file of settings, by the environment and by a file of variables. -/
def offers (x : Setting) (given : Entries) (around : Surroundings) : List Value :=
  (leaf? x.home x.name given).toList ++ (x.given? around.outside).toList ++ (x.given? around.inFile).toList

/-- The offers for a setting, laid over one another. -/
def overlaid (x : Setting) (given : Entries) (around : Surroundings) : Option Value :=
  let upper := ((leaf? x.home x.name given).map (overlayValue (x.given? around.outside))).or
    (x.given? around.outside)
  (upper.map (overlayValue (x.given? around.inFile))).or (x.given? around.inFile)

end Setting

/-- What is offered first is not a mapping over a mapping that is offered later. -/
def Apart (offers : List Value) : Prop :=
  ∀ v rest, offers = v :: rest → IsMapping v → ∀ w ∈ rest, ¬ IsMapping w

/-- Laying offers over one another gives the first, unless it is a mapping over another. -/
theorem Setting.overlaid_eq_head? (apart : Apart (x.offers given around)) :
    x.overlaid given around = (x.offers given around).head? := by
  unfold overlaid offers at *
  cases own : leaf? x.home x.name given with
  | some v =>
    rw [own] at apart
    have later : IsMapping v → ∀ w, w ∈ x.given? around.outside ∨ w ∈ x.given? around.inFile → ¬ IsMapping w :=
      fun mapping w member => apart v _ rfl mapping w (by simpa using member)
    have next := Layers.overlayValue_of_not_both fun mapping w member => later mapping w (.inl member)
    have last := Layers.overlayValue_of_not_both fun mapping w member => later mapping w (.inr member)
    simp [next, last]
  | none =>
    rw [own] at apart
    cases outer : x.given? around.outside with
    | some v =>
      rw [outer] at apart
      have last : overlayValue (x.given? around.inFile) v = v :=
        Layers.overlayValue_of_not_both fun mapping w member => apart v _ rfl mapping w (by simpa using member)
      simp [last]
    | none => cases x.given? around.inFile <;> rfl

namespace Settings

variable {folder : Folder} {name text : String}

/-- All layers together make a mapping of sections, in which each setting is what they offer, one laid over
another. -/
theorem layered_of_written (sectioned : Sectioned given)
    (environment : ∀ entry ∈ Layers.lowered around.outside, Layers.Apt entry)
    (file : ∀ entry ∈ Layers.lowered around.inFile, Layers.Written entry) :
    ∃ entries, layered around given = .ok entries ∧ Sectioned entries ∧
      ∀ x : Setting, leaf? x.home x.name entries = x.overlaid given around := by
  obtain ⟨outer, madeOuter, sectionedOuter, foundOuter⟩ := Layers.environmentLayer_of_apt environment
  obtain ⟨inner, madeInner, sectionedInner, foundInner⟩ := Layers.fileLayer_of_written file
  have steps : layered around given = .ok (overlay inner (overlay outer given)) := by
    unfold layered
    refine Result.bind_eq_ok_iff.mpr ⟨outer, madeOuter, ?_⟩
    rw [Layers.givenLayer_of_sectioned sectioned]
    unfold Surroundings.inFile at madeInner
    cases present : around.dotenv with
    | some text =>
      rw [present] at madeInner
      exact Result.bind_eq_ok_iff.mpr ⟨inner, madeInner, rfl⟩
    | none =>
      rw [present] at madeInner
      exact Result.bind_eq_ok_iff.mpr ⟨inner, madeInner, rfl⟩
  refine ⟨_, steps, sectionedInner.overlay (sectionedOuter.overlay sectioned), fun x => ?_⟩
  rw [Layers.leaf?_overlay x.isPlainName_name sectionedInner (sectionedOuter.overlay sectioned),
    Layers.leaf?_overlay x.isPlainName_name sectionedOuter sectioned, foundOuter, foundInner]
  rfl

theorem sectioned_of_fileValue (holds : fileValue text = .ok (.map given))
    (sections : Layers.OfSections given) : Sectioned given := by
  obtain ⟨distinct, within⟩ := distinct_of_fileValue holds
  refine ⟨distinct, fun entry member => ?_⟩
  obtain ⟨s, fields, rfl⟩ := sections entry member
  exact ⟨s, fields, rfl, within _ _ member⟩

theorem loadValue_of_sections (sections : Layers.OfSections given) :
    loadValue around (.map given) = load around given := by
  refine if_pos (List.all_eq_true.mpr fun entry member => ?_)
  obtain ⟨s, fields, rfl⟩ := sections entry member
  rfl

/-- Settings out of a file are read one by one out of what is offered, one laid over another. -/
theorem ofFile_of_reads (found : folder.textOf "Config file" (.ofText name) = .ok text)
    (holds : fileValue text = .ok (.map given)) (sections : Layers.OfSections given)
    (environment : ∀ entry ∈ Layers.lowered around.outside, Layers.Apt entry)
    (file : ∀ entry ∈ Layers.lowered around.inFile, Layers.Written entry)
    {a : (x : Setting) → x.Kind}
    (reads : ∀ x : Setting, x.Reads (x.overlaid given around) (a x)) :
    ∃ s, ofFile around folder name = .ok s ∧ ∀ x : Setting, x.of s = a x := by
  obtain ⟨entries, merged, wellFormed, taken⟩ :=
    layered_of_written (sectioned_of_fileValue holds sections) environment file
  obtain ⟨s, made, each⟩ := ofEntries_of_reads wellFormed fun x => (taken x).symm ▸ reads x
  have loaded : loadValue around (.map given) = .ok s := by
    rw [loadValue_of_sections sections, load, merged, Result.ok_bind, made]
    rfl
  exact ⟨s, by rw [ofFile, found, Result.ok_bind, holds, Result.ok_bind, loaded], each⟩

theorem ofFile_of_unwritten {value : Option String}
    (found : folder.textOf "Config file" (.ofText name) = .ok text)
    (holds : fileValue text = .ok (.map given)) (sections : Layers.OfSections given)
    (single : Layers.last? (Layers.variablePrefix ++ Section.cluster.name)
      (Layers.lowered around.outside) = none)
    (last : Layers.last? Setting.hosts.variableName (Layers.lowered around.outside) = some value)
    (unwritten : Setting.hosts.decode? value = none) :
    ofFile around folder name = .error (.badSetting "cluster" "EnvSettingsSource") := by
  have spoilt := Layers.environmentLayer_of_unwritten single last unwritten
  have stopped : layered around given = .error (.badSetting "cluster" "EnvSettingsSource") := by
    unfold layered
    exact Result.bind_eq_error_iff.mpr (.inl spoilt)
  rw [ofFile, found, Result.ok_bind, holds, Result.ok_bind, loadValue_of_sections sections, load, stopped]
  rfl

/-- Settings out of a file are each read, on its own, out of the first of the file, the environment and the
file of variables that gives it, and are their defaults where none does. A section that the file gives in part
has its other settings from elsewhere. -/
theorem ofFile_takes_first_offer (found : folder.textOf "Config file" (.ofText name) = .ok text)
    (holds : fileValue text = .ok (.map given)) (sections : Layers.OfSections given)
    (fits : ∀ (x : Setting) (v : Value), leaf? x.home x.name given = some v → ∃ a, x.read v = .ok a)
    (environment : ∀ entry ∈ Layers.lowered around.outside, Layers.Apt entry)
    (file : ∀ entry ∈ Layers.lowered around.inFile, Layers.Written entry)
    (apart : Apart (Setting.hosts.offers given around)) :
    ∃ s, ofFile around folder name = .ok s ∧
      ∀ x : Setting, x.Reads (x.offers given around).head? (x.of s) := by
  have offered (x : Setting) : ∀ v ∈ x.offers given around, ∃ a, x.read v = .ok a := by
    intro v member
    simp only [Setting.offers, List.mem_append, Option.mem_toList] at member
    rcases member with (own | outer) | inner
    · exact fits x v own
    · exact Layers.fits_of_given? environment outer
    · exact Layers.fits_of_given? (fun entry member => .inl (file entry member)) inner
  -- only hosts can be a mapping, so the other settings are apart whatever they are
  have parted (x : Setting) : Apart (x.offers given around) := by
    by_cases same : x = .hosts
    · exact same ▸ apart
    · intro v rest first mapping
      obtain ⟨a, read⟩ := offered x v (first ▸ List.mem_cons_self)
      exact absurd mapping (Setting.not_isMapping_of_read same read)
  have readable (x : Setting) : ∃ a, x.Reads (x.offers given around).head? a := by
    cases first : (x.offers given around).head? with
    | none => exact ⟨x.default, rfl⟩
    | some v => exact offered x v (List.mem_of_mem_head? first)
  choose a reads using readable
  obtain ⟨s, made, each⟩ := ofFile_of_reads found holds sections environment file
    fun x => (Setting.overlaid_eq_head? (parted x)).symm ▸ reads x
  exact ⟨s, made, fun x => (each x).symm ▸ reads x⟩

/-- A folder with one file in it. -/
def oneFile (name text : String) : Folder :=
  [⟨.ofText name, text.toUTF8.data.toList⟩]

theorem textOf_oneFile {subject name text : String} (clear : '\r' ∉ text.toList) :
    (oneFile name text).textOf subject (.ofText name) = .ok text := by
  refine Folder.textOf_of_file ?_ clear
  simp [Folder.entryAt, oneFile]

/-- A file with one setting of the cluster, and a section without any. -/
def partialText : String :=
  "cluster:\n  hosts: [a]\nobservability: \x7b\x7d\n"

def partialEntries : Entries :=
  [(.text "cluster", .map [(.text "hosts", .list [.text "a"])]), (.text "observability", .map [])]

/-- An environment with hosts and a user, and a file of variables with another user. -/
def crowded : Surroundings :=
  ⟨[("ELASTICQUERY_CLUSTER__HOSTS", "[\"b\"]"), ("elasticquery_cluster__username", "ann"), ("PATH", "/bin")],
    some "ELASTICQUERY_CLUSTER__USERNAME=bob\nELASTICQUERY_OBSERVABILITY__LOG_LEVEL=debug\n"⟩

private theorem fileValue_partial : fileValue partialText = .ok (.map partialEntries) := by
  have parsed : Yaml.parse partialText = .ok (.map partialEntries) :=
    (Yaml.parse_of_tokens
      [.mappingOpen, .key, .scalar true "cluster", .colon, .mappingOpen, .key, .scalar true "hosts",
        .colon, .bracketOpen, .scalar true "a", .bracketClose, .blockClose, .key, .scalar true "observability",
        .colon, .braceOpen, .braceClose, .blockClose, .textEnd]
      (.mapping .mapping [
        (.scalar .text "cluster", .mapping .mapping [
          (.scalar .text "hosts", .sequence .sequence [.scalar .text "a"])]),
        (.scalar .text "observability", .mapping .mapping [])])
      (by decide) (by decide +kernel) (by decide +kernel) rfl).trans rfl
  rw [fileValue, parsed]
  rfl

private theorem lowered_environment_crowded : Layers.lowered crowded.outside =
    [(Setting.hosts.variableName, some "[\"b\"]"), (Setting.username.variableName, some "ann"),
      ("path", some "/bin")] := by
  have hosts : "ELASTICQUERY_CLUSTER__HOSTS".toLower = Setting.hosts.variableName :=
    Text.toLower_eq (by decide)
  have username : "elasticquery_cluster__username".toLower = Setting.username.variableName :=
    Text.toLower_eq (by decide)
  have path : "PATH".toLower = "path" := Text.toLower_eq (by decide)
  simp [Layers.lowered, Surroundings.outside, crowded, hosts, username, path]

private theorem lowered_file_crowded : Layers.lowered crowded.inFile =
    [(Setting.username.variableName, some "bob"), (Setting.logLevel.variableName, some "debug")] := by
  have username : "ELASTICQUERY_CLUSTER__USERNAME".toLower = Setting.username.variableName :=
    Text.toLower_eq (by decide)
  have level : "ELASTICQUERY_OBSERVABILITY__LOG_LEVEL".toLower = Setting.logLevel.variableName :=
    Text.toLower_eq (by decide)
  have assigned : crowded.inFile = [("ELASTICQUERY_CLUSTER__USERNAME", some "bob"),
      ("ELASTICQUERY_OBSERVABILITY__LOG_LEVEL", some "debug")] := by decide +kernel
  simp [assigned, Layers.lowered, username, level]

private theorem offers_crowded (x : Setting) : x.offers partialEntries crowded =
    match x with
    | .hosts => [.list [.text "a"], .list [.text "b"]]
    | .username => [.text "ann", .text "bob"]
    | .logLevel => [.text "debug"]
    | _ => [] := by
  simp only [Setting.offers, Setting.given?, lowered_environment_crowded, lowered_file_crowded]
  cases x <;> rfl

/-- The hosts are those of the file, the user is that of the environment although the file has the section, the
level is that of the file of variables, and the format is the default. -/
theorem ofFile_takes_first_offer_crowded :
    ∃ s, ofFile crowded (oneFile "c.yaml" partialText) "c.yaml" = .ok s ∧ s.cluster.hosts = ["a"] ∧
      s.cluster.username = some "ann" ∧ s.observability.logLevel = "debug" ∧
      s.observability.logFormat = "json" := by
  have sections : Layers.OfSections partialEntries := by
    simp only [Layers.OfSections, partialEntries, List.forall_mem_cons]
    exact ⟨⟨.cluster, _, rfl⟩, ⟨.observability, _, rfl⟩, nofun⟩
  have fits (x : Setting) (v : Value) (given : leaf? x.home x.name partialEntries = some v) :
      ∃ a, x.read v = .ok a := by
    cases x with
    | hosts => exact ⟨["a"], Option.some.inj given ▸ rfl⟩
    | _ => cases given
  have hosts : Layers.Written (Setting.hosts.variableName, some "[\"b\"]") :=
    .setting (v := .list [.text "b"]) rfl ⟨["b"], rfl⟩
  have user (name : String) : Layers.Written (Setting.username.variableName, some name) :=
    .setting (v := .text name) rfl ⟨some name, rfl⟩
  have level : Layers.Written (Setting.logLevel.variableName, some "debug") :=
    .setting (v := .text "debug") rfl ⟨"debug", rfl⟩
  have environment : ∀ entry ∈ Layers.lowered crowded.outside, Layers.Apt entry := by
    rw [lowered_environment_crowded]
    simp only [List.forall_mem_cons]
    exact ⟨.inl hosts, .inl (user "ann"), .inr (Layers.foreign_of_start (by decide)), nofun⟩
  have file : ∀ entry ∈ Layers.lowered crowded.inFile, Layers.Written entry := by
    rw [lowered_file_crowded]
    simp only [List.forall_mem_cons]
    exact ⟨user "bob", level, nofun⟩
  have apart : Apart (Setting.hosts.offers partialEntries crowded) := by
    rw [offers_crowded]
    rintro v rest first ⟨entries, rfl⟩
    cases first
  obtain ⟨s, made, each⟩ := ofFile_takes_first_offer (textOf_oneFile (by decide)) fileValue_partial sections
    fits environment file apart
  have first (x : Setting) := offers_crowded x ▸ each x
  refine ⟨s, made, ?_, ?_, ?_, first .logFormat⟩
  · exact (Field.Checked.ok.inj (first .hosts)).symm
  · exact (Field.Checked.ok.inj (first .username)).symm
  · exact (Field.Checked.ok.inj (first .logLevel)).symm

/-- A file that gives hosts as a mapping. -/
def mappedText : String :=
  "cluster:\n  hosts: \x7ba: 1\x7d\n"

def mappedEntries : Entries :=
  [(.text "cluster", .map [(.text "hosts", .map [(.text "a", .int 1)])])]

/-- A variable that gives hosts as a mapping. -/
def mappedVariable : String :=
  "\x7b\"b\": 2\x7d"

/-- An environment that gives nothing but hosts. -/
def hostsAlone (text : String) : Surroundings :=
  ⟨[("ELASTICQUERY_CLUSTER__HOSTS", text)], none⟩

private theorem fileValue_mapped : fileValue mappedText = .ok (.map mappedEntries) := by
  have parsed : Yaml.parse mappedText = .ok (.map mappedEntries) :=
    (Yaml.parse_of_tokens
      [.mappingOpen, .key, .scalar true "cluster", .colon, .mappingOpen, .key, .scalar true "hosts",
        .colon, .braceOpen, .key, .scalar true "a", .colon, .scalar true "1", .braceClose, .blockClose,
        .blockClose, .textEnd]
      (.mapping .mapping [(.scalar .text "cluster", .mapping .mapping [
        (.scalar .text "hosts", .mapping .mapping [(.scalar .text "a", .scalar .int "1")])])])
      (by decide) (by decide +kernel) (by decide +kernel) rfl).trans rfl
  rw [fileValue, parsed]
  rfl

private theorem fileValue_empty : fileValue "\x7b\x7d\n" = .ok (.map []) := by
  have parsed : Yaml.parse "\x7b\x7d\n" = .ok (.map []) :=
    (Yaml.parse_of_tokens [.braceOpen, .braceClose, .textEnd] (.mapping .mapping [])
      (by decide) (by decide +kernel) (by decide +kernel) rfl).trans rfl
  rw [fileValue, parsed]
  rfl

private theorem lowered_hostsAlone (text : String) : Layers.lowered (hostsAlone text).outside =
    [(Setting.hosts.variableName, some text)] := by
  have hosts : "ELASTICQUERY_CLUSTER__HOSTS".toLower = Setting.hosts.variableName :=
    Text.toLower_eq (by decide)
  simp [Layers.lowered, Surroundings.outside, hostsAlone, hosts]

private theorem decode_mappedVariable : Setting.hosts.decode? (some mappedVariable) =
    some (.map [(.text "b", .int 2)]) := by
  have unmarked : (mappedVariable.toList.head? == some '\ufeff') = false := by decide
  have scanned : Json.scanValue (2 * mappedVariable.toList.length + 2)
      (Json.Cursor.skipSpace ⟨0, mappedVariable.toList⟩) = .ok (.map [(.text "b", .int 2)], ⟨8, []⟩) := by
    cbv
  have parsed : Json.parse mappedVariable = .ok (.map [(.text "b", .int 2)]) := by
    simp only [Json.parse, unmarked, scanned]
    rfl
  rw [Setting.decode?, if_pos ⟨rfl, by decide⟩, parsed]
  rfl

private theorem overlaid_mapped (x : Setting) :
    x.overlaid mappedEntries (hostsAlone mappedVariable) =
      if x = .hosts then some (.map [(.text "b", .int 2), (.text "a", .int 1)]) else none := by
  have both : overlayValue (some (.map [(.text "b", .int 2)])) (.map [(.text "a", .int 1)]) =
      .map [(.text "b", .int 2), (.text "a", .int 1)] := by
    simp [overlayValue, overlay, Layers.overlayEntry, Value.insertEntry, Value.sameKey, Value.alike,
      Value.atomsAlike, Value.asNumber?, Value.asText?]
  have file : (hostsAlone mappedVariable).inFile = [] := rfl
  simp only [Setting.overlaid, Setting.given?, lowered_hostsAlone, file]
  cases x with
  | hosts =>
    have last : Layers.last? Setting.hosts.variableName [(Setting.hosts.variableName, some mappedVariable)] =
        some (some mappedVariable) := by decide
    have own : leaf? Setting.hosts.home Setting.hosts.name mappedEntries =
        some (.map [(.text "a", .int 1)]) := rfl
    rw [last, own, Option.bind_some, decode_mappedVariable, Option.map_some, both]
    rfl
  | _ => rfl

/-- Where a file and the environment both give hosts as a mapping, the hosts are those of both; and where the
environment gives them as a bare text, there are no settings. -/
theorem ofFile_mixes_hosts :
    (fileValue mappedText = .ok (.map mappedEntries) ∧
      Setting.hosts.read (.map [(.text "a", .int 1)]) = .ok ["a"] ∧
      ∃ s, ofFile (hostsAlone mappedVariable) (oneFile "c.yaml" mappedText) "c.yaml" = .ok s ∧
        s.cluster.hosts = ["b", "a"]) ∧
    fileValue "\x7b\x7d\n" = .ok (.map []) ∧
      Setting.hosts.read (.text "http://es1:9200") = .ok ["http://es1:9200"] ∧
      ofFile (hostsAlone "http://es1:9200") (oneFile "c.yaml" "\x7b\x7d\n") "c.yaml" =
        .error (.badSetting "cluster" "EnvSettingsSource") := by
  refine ⟨⟨fileValue_mapped, rfl, ?_⟩, fileValue_empty, rfl, ?_⟩
  · have sections : Layers.OfSections mappedEntries := by
      simp only [Layers.OfSections, mappedEntries, List.forall_mem_singleton]
      exact ⟨.cluster, _, rfl⟩
    have environment : ∀ entry ∈ Layers.lowered (hostsAlone mappedVariable).outside, Layers.Apt entry := by
      rw [lowered_hostsAlone, List.forall_mem_singleton]
      exact .inl (.setting decode_mappedVariable ⟨["b"], rfl⟩)
    let mixed : (x : Setting) → x.Kind
      | .hosts => ["b", "a"]
      | x => x.default
    have reads (x : Setting) : x.Reads (x.overlaid mappedEntries (hostsAlone mappedVariable)) (mixed x) := by
      rw [overlaid_mapped]
      cases x <;> rfl
    obtain ⟨s, made, each⟩ := ofFile_of_reads (textOf_oneFile (by decide)) fileValue_mapped sections environment
      nofun reads
    exact ⟨s, made, each .hosts⟩
  · have unwritten : Setting.hosts.decode? (some "http://es1:9200") = none := rfl
    refine ofFile_of_unwritten (textOf_oneFile (by decide)) fileValue_empty nofun ?_ ?_ unwritten
    all_goals
      rw [lowered_hostsAlone]
      decide

end Settings

end SearchFilter
