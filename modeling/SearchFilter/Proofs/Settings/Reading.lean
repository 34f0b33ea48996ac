import SearchFilter.Proofs.Checked
import SearchFilter.Proofs.Settings.Overlay

namespace SearchFilter

open Layers (Entries Sectioned IsMapping leaf?)

variable {x : Setting} {v : Value} {entries fields : Entries}

namespace Setting

/-- A setting is read out of what is given, or is its default. -/
def Reads (x : Setting) (given : Option Value) (a : x.Kind) : Prop :=
  match given with
  | some v => x.read v = .ok a
  | none => a = x.default

theorem withDefault_of_reads {a : x.Kind} (reads : x.Reads (Value.lookup? x.name fields) a) :
    Field.withDefault fields x.name x.default x.read = .ok a := by
  unfold Field.withDefault
  cases found : Value.lookup? x.name fields with
  | none =>
    rw [found] at reads
    exact congrArg Field.Checked.ok (Eq.symm reads)
  | some v =>
    rw [found] at reads
    exact Field.Checked.inside_eq_ok_iff.mpr reads

/-- Only hosts may be given as a mapping. -/
theorem not_isMapping_of_read {a : x.Kind} (other : x ≠ hosts) (read : x.read v = .ok a) : ¬ IsMapping v := by
  rintro ⟨entries, rfl⟩
  cases x with
  | hosts => exact other rfl
  | _ => cases read

end Setting

namespace Layers

/-- The fields of a section, none if it is absent. -/
def fieldsOf (s : Section) (entries : Entries) : Entries :=
  match Value.lookup? s.name entries with
  | some (.map fields) => fields
  | _ => []

theorem leaf?_eq (s : Section) (name : String) (entries : Entries) :
    leaf? s name entries = Value.lookup? name (fieldsOf s entries) := by
  unfold leaf? fieldsOf
  cases Value.lookup? s.name entries with
  | none => rfl
  | some v => cases v <;> rfl

theorem withDefault_of_fields {α : Type} {default made : α} {read : Value → Field.Checked α}
    {ofFields : Entries → Field.Checked α} (sectioned : Sectioned entries) (s : Section)
    (mapping : ∀ fields, read (.map fields) = ofFields fields) (empty : ofFields [] = .ok default)
    (reads : ofFields (fieldsOf s entries) = .ok made) :
    Field.withDefault entries s.name default read = .ok made := by
  unfold Field.withDefault
  unfold fieldsOf at reads
  rcases sectioned.lookup?_cases s with absent | ⟨fields, found, _⟩
  · rw [absent] at reads ⊢
    exact empty.symm.trans reads
  · rw [found] at reads ⊢
    exact Field.Checked.inside_eq_ok_iff.mpr ((mapping fields).trans reads)

end Layers

theorem ClusterSettings.ofEntries_of_fields {s : ClusterSettings}
    (hosts : Field.withDefault fields "hosts" defaultHosts readHosts = .ok s.hosts)
    (username : Field.withDefault fields "username" none (Field.readOptional Field.readText) = .ok s.username)
    (password : Field.withDefault fields "password" none (Field.readOptional Field.readText) = .ok s.password)
    (verifyCerts : Field.withDefault fields "verify_certs" true Field.readBool = .ok s.verifyCerts)
    (timeout : Field.withDefault fields "timeout" defaultTimeout readTimeout = .ok s.timeout) :
    ofEntries fields = .ok s := by
  rw [ofEntries, hosts, username, password, verifyCerts, timeout]
  rfl

theorem QuerySettings.ofEntries_of_fields {s : QuerySettings}
    (window : Field.withDefault fields "max_result_window" Compiler.defaultWindow readWindow =
      .ok s.maxResultWindow)
    (warnings : Field.withDefault fields "warn_on_leading_wildcard" true Field.readBool =
      .ok s.warnOnLeadingWildcard) : ofEntries fields = .ok s := by
  rw [ofEntries, window, warnings]
  rfl

theorem ObservabilitySettings.ofEntries_of_fields {s : ObservabilitySettings}
    (level : Field.withDefault fields "log_level" "info" Field.readText = .ok s.logLevel)
    (format : Field.withDefault fields "log_format" "json" Field.readText = .ok s.logFormat) :
    ofEntries fields = .ok s := by
  rw [ofEntries, level, format]
  rfl

namespace Settings

open Layers (fieldsOf)

theorem extras_of_sectioned (sectioned : Sectioned entries) : extras entries = .ok () := by
  have known : ∀ name ∈ entries.filterMap fun entry => entry.1.asText?,
      sectionNames.contains name = true := by
    intro name member
    obtain ⟨entry, inside, named⟩ := List.mem_filterMap.mp member
    obtain ⟨s, fields, rfl, _⟩ := sectioned.known entry inside
    obtain rfl := Option.some.inj named
    cases s <;> decide
  have none : (entries.filterMap fun entry => entry.1.asText?).filter
      (fun name => !sectionNames.contains name) = [] := by
    refine List.filter_eq_nil_iff.mpr fun name member => ?_
    simp only [known name member]
    decide
  simp only [extras, none]
  rfl

/-- The settings that sections make are read one by one. -/
theorem ofEntries_of_reads (sectioned : Sectioned entries) {a : (x : Setting) → x.Kind}
    (reads : ∀ x : Setting, x.Reads (leaf? x.home x.name entries) (a x)) :
    ∃ s, ofEntries entries = .ok s ∧ ∀ x : Setting, x.of s = a x := by
  have each (x : Setting) :
      Field.withDefault (fieldsOf x.home entries) x.name x.default x.read = .ok (a x) := by
    refine Setting.withDefault_of_reads ?_
    rw [← Layers.leaf?_eq]
    exact reads x
  let s : Settings := ⟨⟨a .hosts, a .username, a .password, a .verifyCerts, a .timeout⟩,
    ⟨a .maxResultWindow, a .warnOnLeadingWildcard⟩, ⟨a .logLevel, a .logFormat⟩⟩
  have cluster : ClusterSettings.ofEntries (fieldsOf .cluster entries) = .ok s.cluster :=
    ClusterSettings.ofEntries_of_fields (each .hosts) (each .username) (each .password)
      (each .verifyCerts) (each .timeout)
  have query : QuerySettings.ofEntries (fieldsOf .query entries) = .ok s.query :=
    QuerySettings.ofEntries_of_fields (each .maxResultWindow) (each .warnOnLeadingWildcard)
  have observability : ObservabilitySettings.ofEntries (fieldsOf .observability entries) =
      .ok s.observability :=
    ObservabilitySettings.ofEntries_of_fields (each .logLevel) (each .logFormat)
  have first : Field.withDefault entries "cluster" defaultCluster ClusterSettings.read = .ok s.cluster :=
    Layers.withDefault_of_fields sectioned .cluster (fun _ => rfl) rfl cluster
  have second : Field.withDefault entries "query" defaultQuery QuerySettings.read = .ok s.query :=
    Layers.withDefault_of_fields sectioned .query (fun _ => rfl) rfl query
  have third : Field.withDefault entries "observability" defaultObservability ObservabilitySettings.read =
      .ok s.observability :=
    Layers.withDefault_of_fields sectioned .observability (fun _ => rfl) rfl observability
  refine ⟨s, ?_, fun x => by cases x <;> rfl⟩
  rw [ofEntries, first, second, third, extras_of_sectioned sectioned]
  rfl

end Settings

end SearchFilter
