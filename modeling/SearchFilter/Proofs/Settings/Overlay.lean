import SearchFilter.Proofs.Settings.Setting

namespace SearchFilter.Layers

variable {name : String} {s : Section} {v : Value} {below : Option Value} {base upper fields : Entries}

/-- A value that is a mapping. -/
def IsMapping (v : Value) : Prop :=
  ∃ entries, v = .map entries

@[simp] theorem overlayValue_none (v : Value) : overlayValue none v = v := by
  cases v <;> rfl

@[simp] theorem map_overlayValue_none (given : Option Value) : given.map (overlayValue none) = given := by
  cases given <;> simp

/-- A value is left as it is unless it is a mapping over a mapping. -/
theorem overlayValue_of_not_both (apart : IsMapping v → ∀ w ∈ below, ¬ IsMapping w) :
    overlayValue below v = v := by
  cases v with
  | map entries =>
    cases below with
    | none => rfl
    | some w =>
      cases w with
      | map base => exact absurd ⟨base, rfl⟩ (apart ⟨entries, rfl⟩ _ rfl)
      | _ => rfl
  | _ => rfl

theorem overlay_cons (entry : Value × Value) (rest : Entries) :
    overlay base (entry :: rest) = overlay (overlayEntry base entry) rest := by
  rw [overlay]

/-- What is under a plain name is also found by the name as a key. -/
theorem find?_sameKey (plain : Value.IsPlainName name) :
    (base.find? fun entry => Value.sameKey entry.1 (.text name)).map (·.2) = Value.lookup? name base := by
  unfold Value.lookup?
  refine congrArg (fun p => (base.find? p).map (·.2)) (funext fun entry => ?_)
  obtain ⟨key, value⟩ := entry
  rw [Bool.eq_iff_iff, Value.sameKey_text_iff, Value.asText?_eq_iff plain]
  cases key <;> simp

theorem overlayEntry_text (plain : Value.IsPlainName name) : overlayEntry base (.text name, v) =
    Value.insertEntry base (.text name) (overlayValue (Value.lookup? name base) v) := by
  rw [overlayEntry, find?_sameKey plain]

theorem lookup?_overlayEntry_ne {key : Value} (plain : Value.IsPlainName name) (other : key ≠ .text name) :
    Value.lookup? name (overlayEntry base (key, v)) = Value.lookup? name base := by
  rw [overlayEntry, Value.lookup?_insertEntry_ne plain other]

theorem lookup?_overlay (plain : Value.IsPlainName name) (distinct : Value.Distinct upper) :
    Value.lookup? name (overlay base upper) =
      ((Value.lookup? name upper).map (overlayValue (Value.lookup? name base))).or
        (Value.lookup? name base) := by
  induction upper generalizing base with
  | nil => rfl
  | cons entry rest ih =>
    obtain ⟨key, v⟩ := entry
    obtain ⟨apart, later⟩ := List.pairwise_cons.mp distinct
    rw [overlay_cons, ih later]
    by_cases same : key = .text name
    · subst same
      have absent : Value.lookup? name rest = none := by
        refine Value.lookup?_eq_none_iff.mpr fun entry member is => ?_
        have differs := apart entry.1 (List.mem_map_of_mem member)
        rw [is, Value.text_sameKey_iff.mpr rfl] at differs
        cases differs
      rw [absent, overlayEntry_text plain, Value.lookup?_insertEntry_self plain, Value.lookup?_cons_self]
      rfl
    · rw [lookup?_overlayEntry_ne plain same, Value.lookup?_cons_ne same]

theorem distinct_overlay (distinct : Value.Distinct base) : Value.Distinct (overlay base upper) := by
  induction upper generalizing base with
  | nil => exact distinct
  | cons entry rest ih =>
    rw [overlay_cons, overlayEntry]
    exact ih distinct.insertEntry

/-- Entries each of which is a section, given as a mapping. -/
def OfSections (entries : Entries) : Prop :=
  ∀ entry ∈ entries, ∃ s : Section, ∃ fields, entry = (.text s.name, .map fields)

/-- A mapping of sections: each of them is one once, and a mapping whose fields have distinct names. -/
structure Sectioned (entries : Entries) : Prop where
  distinct : Value.Distinct entries
  known : ∀ entry ∈ entries, ∃ s : Section, ∃ fields, entry = (.text s.name, .map fields) ∧
    Value.Distinct fields

/-- What a mapping of sections has for a field of a section. -/
def leaf? (s : Section) (field : String) (entries : Entries) : Option Value :=
  match Value.lookup? s.name entries with
  | some (.map fields) => Value.lookup? field fields
  | _ => none

namespace Sectioned

theorem nil : Sectioned [] :=
  ⟨.nil, nofun⟩

theorem lookup?_cases (sectioned : Sectioned base) (s : Section) : Value.lookup? s.name base = none ∨
    ∃ fields, Value.lookup? s.name base = some (.map fields) ∧ Value.Distinct fields := by
  cases found : Value.lookup? s.name base with
  | none => exact .inl rfl
  | some v =>
    obtain ⟨_, fields, same, distinct⟩ := sectioned.known _ (Value.mem_of_lookup? found)
    exact .inr ⟨fields, congrArg some (Prod.mk.inj same).2, distinct⟩

theorem insertEntry (sectioned : Sectioned base) (s : Section) (distinct : Value.Distinct fields) :
    Sectioned (Value.insertEntry base (.text s.name) (.map fields)) := by
  refine ⟨sectioned.distinct.insertEntry, ?_⟩
  intro entry member
  rcases Value.mem_insertEntry (Setting.isPlainName_home s) member with old | rfl
  · exact sectioned.known entry old
  · exact ⟨s, fields, rfl, distinct⟩

theorem overlay (lower : Sectioned base) (higher : Sectioned upper) : Sectioned (overlay base upper) := by
  obtain ⟨distinct, known⟩ := higher
  induction upper generalizing base with
  | nil => exact lower
  | cons entry rest ih =>
    obtain ⟨first, others⟩ := List.forall_mem_cons.mp known
    obtain ⟨s, fields, rfl, fieldwise⟩ := first
    have step : Sectioned (overlayEntry base (.text s.name, .map fields)) := by
      rw [overlayEntry_text (Setting.isPlainName_home s)]
      rcases lower.lookup?_cases s with absent | ⟨inner, found, before⟩
      · rw [absent, overlayValue_none]
        exact lower.insertEntry s fieldwise
      · rw [found]
        exact lower.insertEntry s (distinct_overlay before)
    exact ih step (List.pairwise_cons.mp distinct).2 others

end Sectioned

/-- What is found of a field in sections laid over others. -/
theorem leaf?_overlay (plain : Value.IsPlainName name) (lower : Sectioned base) (higher : Sectioned upper) :
    leaf? s name (overlay base upper) =
      ((leaf? s name upper).map (overlayValue (leaf? s name base))).or (leaf? s name base) := by
  unfold leaf?
  rw [lookup?_overlay (Setting.isPlainName_home s) higher.distinct]
  rcases higher.lookup?_cases s with absent | ⟨fields, found, distinct⟩
  · rw [absent]
    rfl
  · rw [found]
    rcases lower.lookup?_cases s with absent | ⟨inner, under, _⟩
    · rw [absent]
      simp
    · rw [under]
      exact lookup?_overlay plain distinct

end SearchFilter.Layers
