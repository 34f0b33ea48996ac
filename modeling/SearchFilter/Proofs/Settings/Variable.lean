import SearchFilter.Proofs.Result
import SearchFilter.Proofs.Settings.Overlay

namespace SearchFilter

open Layers (Entries Variables Sectioned leaf?)

variable {x y : Setting} {s : Section} {value : Option String} {v : Value} {fields entries : Entries}
  {bindings : Variables} {name : String}

namespace Setting

/-- The value that a variable is written for: hosts are written as JSON, and anything else as it is. -/
def decode? (x : Setting) : Option String → Option Value
  | none => some .null
  | some text => if x = hosts ∧ text ≠ "" then (Json.parse text).toOption else some (.text text)

theorem fieldValue_eq : Layers.fieldValue x.home [] x.name value = x.decode? value := by
  cases value with
  | none => rfl
  | some text => simp [Layers.fieldValue, decode?, isListField_name]

theorem variableName_ne_section (x : Setting) (s : Section) :
    x.variableName ≠ Layers.variablePrefix ++ s.name := by
  cases x <;> cases s <;> decide

theorem startsWith_section (x : Setting) :
    x.variableName.startsWith (Layers.variablePrefix ++ x.home.name) = true := by
  have parts : x.variableName =
      (Layers.variablePrefix ++ x.home.name) ++ (Layers.delimiter ++ x.name) := by
    simp only [variableName, variableStart, String.append_assoc]
  rw [String.startsWith_string_iff, parts]
  generalize Layers.variablePrefix ++ x.home.name = start
  rw [String.toList_append]
  exact List.prefix_append _ _

end Setting

namespace Layers

/-- The value of the last variable of a name. -/
def last? (name : String) (bindings : Variables) : Option (Option String) :=
  bindings.reverse.lookup name

theorem last?_concat_self : last? name (bindings ++ [(name, value)]) = some value := by
  simp [last?]

theorem last?_concat_ne {other : String} (apart : other ≠ name) :
    last? name (bindings ++ [(other, value)]) = last? name bindings := by
  have different : (name == other) = false := by simpa using apart.symm
  simp [last?, List.lookup_cons, different]

theorem lookup_of_last? (absent : last? name bindings = none) : bindings.lookup name = none :=
  List.lookup_eq_none_iff.mpr fun entry member =>
    List.lookup_eq_none_iff.mp absent entry (List.mem_reverse.mpr member)

theorem mem_of_last? (given : last? name bindings = some value) : (name, value) ∈ bindings := by
  obtain ⟨before, after, same, _⟩ := List.lookup_eq_some_iff.mp given
  exact List.mem_reverse.mp (same ▸ by simp)

/-- A variable gives a setting: it is named for it, and its value is written for it and fits it. -/
inductive Written : String × Option String → Prop
  | setting {x : Setting} {value : Option String} {v : Value} (decoded : x.decode? value = some v)
      (fits : ∃ a, x.read v = .ok a) : Written (x.variableName, value)

/-- A name that has nothing to do with settings. -/
def Foreign (name : String) : Prop :=
  ∀ s : Section, name ≠ variablePrefix ++ s.name ∧ name.startsWith (Setting.variableStart s) = false

theorem foreign_of_start (other : ¬ variablePrefix.toList <+: name.toList) : Foreign name := by
  refine fun s => ⟨?_, ?_⟩
  · rintro rfl
    rw [String.toList_append] at other
    exact other (List.prefix_append _ _)
  · rw [Bool.eq_false_iff]
    intro starts
    rw [String.startsWith_string_iff, Setting.variableStart, String.append_assoc,
      String.toList_append] at starts
    exact other ((List.prefix_append _ _).trans starts)

/-- A variable that gives a setting, or has nothing to do with settings. -/
def Apt (entry : String × Option String) : Prop :=
  Written entry ∨ Foreign entry.1

/-- The fields of a section that variables name one by one. -/
structure Explodes (s : Section) (bindings : Variables) (fields : Entries) : Prop where
  distinct : Value.Distinct fields
  named : ∀ entry ∈ fields, ∃ x : Setting, x.home = s ∧ entry.1 = .text x.name
  found : ∀ x : Setting, x.home = s →
    Value.lookup? x.name fields = (last? x.variableName bindings).bind x.decode?

/-- One step of gathering the fields of a section. -/
def gather (s : Section) (entries : Entries) (entry : String × Option String) : Option Entries :=
  if entry.1.startsWith (Setting.variableStart s) then
    let keys := ((entry.1.drop (Setting.variableStart s).length).toString).splitOn delimiter
    let last := keys.getLast?.getD ""
    (fieldValue s keys.dropLast last entry.2).map fun value => put value last keys.dropLast entries
  else some entries

theorem explode_concat (entry : String × Option String) :
    explode s (bindings ++ [entry]) = (explode s bindings).bind (gather s · entry) := by
  unfold explode
  rw [List.foldlM_append]
  simp only [List.foldlM_cons, List.foldlM_nil, bind_pure]
  rfl

theorem gather_setting (written : x.decode? value = some v) :
    gather x.home entries (x.variableName, value) =
      some (Value.insertEntry entries (.text x.name) v) := by
  have starts := (x.startsWith_variableStart x.home).mpr rfl
  simp only [gather, starts, if_true, x.drop_variableStart, x.splitOn_name]
  have plain : fieldValue x.home [] x.name value = some v := Setting.fieldValue_eq.trans written
  simp [plain, put]

theorem gather_other (other : name.startsWith (Setting.variableStart s) = false) :
    gather s entries (name, value) = some entries := by
  simp [gather, other]

/-- A variable that is not written for its setting spoils its section. -/
theorem explode_of_unwritten (member : (x.variableName, value) ∈ bindings) (unwritten : x.decode? value = none) :
    explode x.home bindings = none := by
  obtain ⟨before, after, rfl⟩ := List.append_of_mem member
  have starts := (x.startsWith_variableStart x.home).mpr rfl
  have stops (entries : Entries) : gather x.home entries (x.variableName, value) = none := by
    simp only [gather, starts, if_true, x.drop_variableStart, x.splitOn_name]
    have lost : fieldValue x.home [] x.name value = none := Setting.fieldValue_eq.trans unwritten
    simp [lost]
  rw [List.append_cons]
  induction after using List.reverseRecOn with
  | nil => simp [explode_concat, stops]
  | append_singleton later entry ih =>
    rw [← List.append_assoc, explode_concat, ih (by simp)]
    rfl

namespace Explodes

theorem setting (explodes : Explodes y.home bindings fields) (written : y.decode? value = some v) :
    Explodes y.home (bindings ++ [(y.variableName, value)])
      (Value.insertEntry fields (.text y.name) v) := by
  refine ⟨explodes.distinct.insertEntry, ?_, ?_⟩
  · intro entry member
    rcases Value.mem_insertEntry y.isPlainName_name member with old | rfl
    · exact explodes.named entry old
    · exact ⟨y, rfl, rfl⟩
  · intro x there
    by_cases same : y = x
    · subst same
      rw [Value.lookup?_insertEntry_self y.isPlainName_name, last?_concat_self, Option.bind_some, written]
    · have apart : Value.text y.name ≠ .text x.name := fun is =>
        same (Setting.name_inj (Value.text.inj is))
      rw [Value.lookup?_insertEntry_ne x.isPlainName_name apart, explodes.found x there,
        last?_concat_ne fun is => same (Setting.variableName_inj is)]

theorem other (explodes : Explodes s bindings fields)
    (other : name.startsWith (Setting.variableStart s) = false) :
    Explodes s (bindings ++ [(name, value)]) fields := by
  refine ⟨explodes.distinct, explodes.named, fun x there => ?_⟩
  rw [explodes.found x there, last?_concat_ne]
  rintro rfl
  have starts := (x.startsWith_variableStart s).mpr there
  rw [other] at starts
  cases starts

end Explodes

theorem explode_of_apt (apt : ∀ entry ∈ bindings, Apt entry) (s : Section) :
    ∃ fields, explode s bindings = some fields ∧ Explodes s bindings fields := by
  induction bindings using List.reverseRecOn with
  | nil => exact ⟨[], rfl, .nil, nofun, fun _ _ => rfl⟩
  | append_singleton earlier entry ih =>
    obtain ⟨fields, gathered, explodes⟩ := ih fun other member => apt other (List.mem_append_left _ member)
    obtain ⟨name, value⟩ := entry
    rw [explode_concat, gathered, Option.bind_some]
    cases starts : name.startsWith (Setting.variableStart s) with
    | false => exact ⟨fields, gather_other starts, explodes.other starts⟩
    | true =>
      rcases apt (name, value) (by simp) with written | foreign
      · generalize named : (name, value) = entry at written
        obtain @⟨y, _, v, written, _⟩ := written
        obtain ⟨rfl, rfl⟩ := Prod.mk.inj named
        obtain rfl := (y.startsWith_variableStart s).mp starts
        exact ⟨_, gather_setting written, explodes.setting written⟩
      · rw [(foreign s).2] at starts
        cases starts

/-- The names of settings are those under which fields are put already. -/
theorem renamed_of_explodes (explodes : Explodes s bindings fields) : renamed s fields = fields := by
  unfold renamed
  refine Eq.trans (congrArg Value.collectEntries ?_) (Value.collectEntries_of_distinct explodes.distinct)
  refine (List.map_congr_left fun entry member => ?_).trans fields.map_id
  obtain ⟨x, rfl, same⟩ := explodes.named entry member
  obtain ⟨key, value⟩ := entry
  obtain rfl : key = .text x.name := same
  simp only [Value.asText?, Option.bind_some, x.find?_fieldNames]
  rfl

theorem sectionValue?_of_apt (apt : ∀ entry ∈ bindings, Apt entry) (s : Section) :
    ∃ fields, Explodes s bindings fields ∧
      sectionValue? s bindings = some (if fields.isEmpty then none else some (.map fields)) := by
  obtain ⟨fields, gathered, explodes⟩ := explode_of_apt apt s
  have whole : bindings.lookup (variablePrefix ++ s.name) = none := by
    refine List.lookup_eq_none_iff.mpr fun entry member => ?_
    rw [bne_iff_ne]
    rcases apt entry member with written | foreign
    · obtain ⟨_, _⟩ := written
      exact (Setting.variableName_ne_section _ s).symm
    · exact (foreign s).1.symm
  refine ⟨fields, explodes, ?_⟩
  rw [sectionValue?, whole, gathered]
  simp only [Option.map_some, renamed_of_explodes explodes]

theorem section_name_inj {s t : Section} : s.name = t.name → s = t := by
  cases s <;> cases t <;> decide

theorem Sectioned.cons (sectioned : Sectioned entries) (distinct : Value.Distinct fields)
    (new : ∀ entry ∈ entries, entry.1 ≠ .text s.name) : Sectioned ((.text s.name, .map fields) :: entries) := by
  refine ⟨List.pairwise_cons.mpr ⟨?_, sectioned.distinct⟩, List.forall_mem_cons.mpr
    ⟨⟨s, fields, rfl, distinct⟩, sectioned.known⟩⟩
  intro key member
  obtain ⟨entry, inside, rfl⟩ := List.mem_map.mp member
  rw [Bool.eq_false_iff]
  intro same
  exact new entry inside
    ((Value.asText?_eq_iff (Setting.isPlainName_home s)).mp (Value.text_sameKey_iff.mp same))

/-- What variables make of some sections. -/
structure Gives (bindings : Variables) (sections : List Section) (entries : Entries) : Prop where
  sectioned : Sectioned entries
  among : ∀ entry ∈ entries, ∃ s ∈ sections, entry.1 = .text s.name
  found : ∀ x : Setting, x.home ∈ sections →
    leaf? x.home x.name entries = (last? x.variableName bindings).bind x.decode?

namespace Gives

variable {ss : List Section}

theorem lacks (gives : Gives bindings ss entries) (new : s ∉ ss) :
    ∀ entry ∈ entries, entry.1 ≠ .text s.name := by
  intro entry member is
  obtain ⟨t, inside, named⟩ := gives.among entry member
  exact new (section_name_inj (Value.text.inj (named.symm.trans is)) ▸ inside)

theorem among_cons (gives : Gives bindings ss entries) :
    ∀ entry ∈ entries, ∃ t ∈ s :: ss, entry.1 = .text t.name := by
  intro entry member
  obtain ⟨t, inside, named⟩ := gives.among entry member
  exact ⟨t, List.mem_cons_of_mem _ inside, named⟩

theorem absent (gives : Gives bindings ss entries) (new : s ∉ ss) (explodes : Explodes s bindings []) :
    Gives bindings (s :: ss) entries := by
  refine ⟨gives.sectioned, gives.among_cons, fun x there => ?_⟩
  by_cases home : x.home = s
  · have nothing := explodes.found x home
    subst home
    rw [leaf?, Value.lookup?_eq_none_iff.mpr (gives.lacks new), ← nothing]
    rfl
  · exact gives.found x ((List.mem_cons.mp there).resolve_left home)

theorem present (gives : Gives bindings ss entries) (new : s ∉ ss) (explodes : Explodes s bindings fields) :
    Gives bindings (s :: ss) ((.text s.name, .map fields) :: entries) := by
  refine ⟨gives.sectioned.cons explodes.distinct (gives.lacks new),
    List.forall_mem_cons.mpr ⟨⟨s, List.mem_cons_self, rfl⟩, gives.among_cons⟩, fun x there => ?_⟩
  by_cases home : x.home = s
  · subst home
    rw [leaf?, Value.lookup?_cons_self]
    exact explodes.found x rfl
  · have apart : Value.text s.name ≠ .text x.home.name := fun is =>
      home (section_name_inj (Value.text.inj is)).symm
    rw [leaf?, Value.lookup?_cons_ne apart]
    exact gives.found x ((List.mem_cons.mp there).resolve_left home)

end Gives

theorem sections_of_apt (source : String) (apt : ∀ entry ∈ bindings, Apt entry) (ss : List Section)
    (once : ss.Nodup) : ∃ entries, sections source bindings ss = .ok entries ∧ Gives bindings ss entries := by
  induction ss with
  | nil => exact ⟨[], rfl, .nil, nofun, nofun⟩
  | cons s rest ih =>
    obtain ⟨new, once⟩ := List.nodup_cons.mp once
    obtain ⟨others, made, gives⟩ := ih once
    obtain ⟨fields, explodes, valued⟩ := sectionValue?_of_apt apt s
    cases fields with
    | nil => exact ⟨others, by simp [sections, valued, made], gives.absent new explodes⟩
    | cons field more =>
      exact ⟨(.text s.name, .map (field :: more)) :: others, by simp [sections, valued, made],
        gives.present new explodes⟩

/-- Variables with their names in lower case. -/
def lowered (bindings : Variables) : Variables :=
  bindings.map fun entry => (entry.1.toLower, entry.2)

section Assignment

variable {known : List (String × Option String)} {other : String}

theorem lookup_replace : (known.map fun (n, v) => if n == name then (n, value) else (n, v)).lookup other =
    if other = name then (known.lookup other).map fun _ => value else known.lookup other := by
  induction known with
  | nil => simp
  | cons entry rest ih =>
    obtain ⟨n, v⟩ := entry
    have kept : (if n == name then (n, value) else (n, v)) = (n, if n == name then value else v) := by
      split <;> rfl
    simp only [List.map_cons, kept]
    by_cases same : other = n
    · subst same
      by_cases named : other = name <;> simp [named]
    · have apart : (other == n) = false := by simpa using same
      simp only [List.lookup_cons, apart, ih]

theorem last?_assign_self : last? name (Dotenv.assign known name value) = some value := by
  unfold Dotenv.assign
  split
  case isTrue there =>
    rw [last?, ← List.map_reverse, lookup_replace, if_pos rfl]
    cases found : known.reverse.lookup name with
    | some v => rfl
    | none =>
      rw [lookup_of_last? found] at there
      cases there
  case isFalse => exact last?_concat_self

theorem last?_assign_ne (apart : other ≠ name) :
    last? other (Dotenv.assign known name value) = last? other known := by
  unfold Dotenv.assign
  split
  · rw [last?, ← List.map_reverse, lookup_replace, if_neg apart, last?]
  · exact last?_concat_ne apart.symm

theorem mem_assign {entry : String × Option String} (member : entry ∈ Dotenv.assign known name value) :
    entry ∈ known ∨ entry = (name, value) := by
  unfold Dotenv.assign at member
  split at member
  · obtain ⟨⟨n, v⟩, inside, same⟩ := List.mem_map.mp member
    by_cases named : (n == name) = true
    · simp only [named, if_true] at same
      exact .inr (same.symm.trans (by rw [eq_of_beq named]))
    · simp only [named] at same
      exact .inl (same ▸ inside)
  · rcases List.mem_append.mp member with old | new
    · exact .inl old
    · exact .inr (List.mem_singleton.mp new)

end Assignment

theorem lowerNames_concat (entry : String × Option String) : lowerNames (bindings ++ [entry]) =
    Dotenv.assign (lowerNames bindings) entry.1.toLower entry.2 := by
  unfold lowerNames
  rw [List.foldl_append]
  rfl

theorem last?_lowerNames : last? name (lowerNames bindings) = last? name (lowered bindings) := by
  induction bindings using List.reverseRecOn with
  | nil => rfl
  | append_singleton earlier entry ih =>
    rw [lowerNames_concat, lowered, List.map_append]
    by_cases same : entry.1.toLower = name
    · subst same
      rw [last?_assign_self]
      exact last?_concat_self.symm
    · rw [last?_assign_ne (Ne.symm same), ih]
      exact (last?_concat_ne same).symm

theorem mem_lowerNames {entry : String × Option String} (member : entry ∈ lowerNames bindings) :
    entry ∈ lowered bindings := by
  induction bindings using List.reverseRecOn with
  | nil => cases member
  | append_singleton earlier last ih =>
    rw [lowerNames_concat] at member
    rw [lowered, List.map_append, List.mem_append]
    rcases mem_assign member with old | rfl
    · exact .inl (ih old)
    · exact .inr List.mem_cons_self

end Layers

/-- What the last variable that is named for a setting gives, in whatever case. -/
def Setting.given? (x : Setting) (bindings : Variables) : Option Value :=
  (Layers.last? x.variableName (Layers.lowered bindings)).bind x.decode?

namespace Layers

theorem Written.fits (written : Written (x.variableName, value)) (decoded : x.decode? value = some v) :
    ∃ a, x.read v = .ok a := by
  generalize named : (x.variableName, value) = entry at written
  obtain @⟨y, _, w, again, fits⟩ := written
  obtain ⟨same, rfl⟩ := Prod.mk.inj named
  obtain rfl := Setting.variableName_inj same
  rw [decoded, Option.some.injEq] at again
  exact again ▸ fits

theorem fits_of_given? (apt : ∀ entry ∈ lowered bindings, Apt entry) (gives : x.given? bindings = some v) :
    ∃ a, x.read v = .ok a := by
  obtain ⟨value, last, decoded⟩ := Option.bind_eq_some_iff.mp gives
  rcases apt _ (mem_of_last? last) with written | foreign
  · exact written.fits decoded
  · have starts := (x.startsWith_variableStart x.home).mpr rfl
    rw [(foreign x.home).2] at starts
    cases starts

theorem environmentLayer_of_apt (apt : ∀ entry ∈ lowered bindings, Apt entry) :
    ∃ entries, environmentLayer (lowerNames bindings) = .ok entries ∧ Sectioned entries ∧
      ∀ x : Setting, leaf? x.home x.name entries = x.given? bindings := by
  obtain ⟨entries, made, gives⟩ := sections_of_apt "EnvSettingsSource"
    (fun entry member => apt entry (mem_lowerNames member)) Section.all (by decide)
  refine ⟨entries, made, gives.sectioned, fun x => ?_⟩
  have all : x.home ∈ Section.all := by cases x <;> decide
  rw [gives.found x all, last?_lowerNames, Setting.given?]

/-- Hosts whose last variable is not written as JSON spoil the environment. -/
theorem environmentLayer_of_unwritten
    (single : last? (variablePrefix ++ Section.cluster.name) (lowered bindings) = none)
    (last : last? Setting.hosts.variableName (lowered bindings) = some value)
    (unwritten : Setting.hosts.decode? value = none) :
    environmentLayer (lowerNames bindings) = .error (.badSetting "cluster" "EnvSettingsSource") := by
  have alone := lookup_of_last? (last?_lowerNames.trans single)
  have spoilt := explode_of_unwritten (mem_of_last? (last?_lowerNames.trans last)) unwritten
  have nothing : sectionValue? .cluster (lowerNames bindings) = none := by
    rw [sectionValue?, alone]
    exact congrArg (Option.map _) spoilt
  rw [environmentLayer, Section.all, sections, nothing]
  rfl

theorem fileLayer_of_written (written : ∀ entry ∈ lowered bindings, Written entry) :
    ∃ entries, fileLayer (lowerNames bindings) = .ok entries ∧ Sectioned entries ∧
      ∀ x : Setting, leaf? x.home x.name entries = x.given? bindings := by
  obtain ⟨entries, made, gives⟩ := sections_of_apt "DotEnvSettingsSource"
    (fun entry member => .inl (written entry (mem_lowerNames member))) Section.all (by decide)
  have none (found : Entries) : strangers found (lowerNames bindings) = [] := by
    refine List.filterMap_eq_nil_iff.mpr fun entry member => ?_
    obtain @⟨x, value, _, _, _⟩ := written entry (mem_lowerNames member)
    have known : Settings.sectionNames.any
        (fun name => x.variableName.startsWith (variablePrefix ++ name)) = true :=
      List.any_eq_true.mpr ⟨x.home.name, List.mem_map_of_mem (by cases x <;> decide), x.startsWith_section⟩
    cases value with
    | none => rfl
    | some text => simp [known]
  refine ⟨entries, by simp [fileLayer, made, none], gives.sectioned, fun x => ?_⟩
  have all : x.home ∈ Section.all := by cases x <;> decide
  rw [gives.found x all, last?_lowerNames, Setting.given?]

end Layers

end SearchFilter
