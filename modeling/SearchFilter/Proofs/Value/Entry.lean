import Mathlib.Data.List.Induction
import SearchFilter.Proofs.Value.Lookup
import SearchFilter.Value.Equality

namespace SearchFilter.Value

variable {name : String} {key value v : Value} {entry : Value × Value}
  {entries base : List (Value × Value)}

/-- A name that no operator and no conjunction has. -/
def IsPlainName (name : String) : Prop :=
  (∀ op : Operator, op.name ≠ name) ∧ ∀ c : Conjunction, c.name ≠ name

theorem sameKey_text_iff : sameKey key (.text name) = true ↔ key.asText? = some name := by
  cases key <;> simp [sameKey, alike, atomsAlike, asNumber?, asText?]

theorem text_sameKey_iff : sameKey (.text name) key = true ↔ key.asText? = some name := by
  have comm {s : String} : name = s ↔ s = name := eq_comm
  cases key <;> simp [sameKey, alike, atomsAlike, asNumber?, asText?, comm]

/-- A plain name is the text of nothing but itself. -/
theorem asText?_eq_iff (plain : IsPlainName name) : key.asText? = some name ↔ key = .text name := by
  cases key with
  | operator op => simpa [asText?] using plain.1 op
  | conjunction c => simpa [asText?] using plain.2 c
  | _ => simp [asText?]

theorem lookup?_eq_none_iff : lookup? name entries = none ↔ ∀ entry ∈ entries, entry.1 ≠ .text name := by
  induction entries with
  | nil => simp [lookup?]
  | cons entry rest ih =>
    obtain ⟨key, value⟩ := entry
    by_cases same : key = .text name
    · simp [same]
    · simp [lookup?_cons_ne same, ih, same]

theorem lookup?_append : lookup? name (base ++ entries) = (lookup? name base).or (lookup? name entries) := by
  induction base with
  | nil => rfl
  | cons entry rest ih =>
    obtain ⟨key, value⟩ := entry
    by_cases same : key = .text name
    · simp [same]
    · rw [List.cons_append, lookup?_cons_ne same, ih, lookup?_cons_ne same]

/-- Another value under some keys is found under a name if they include it. -/
theorem lookup?_map_value {p : Value → Bool} : lookup? name
      (entries.map fun entry => if p entry.1 then (entry.1, value) else entry) =
    if p (.text name) then (lookup? name entries).map fun _ => value else lookup? name entries := by
  induction entries with
  | nil => simp [lookup?]
  | cons entry rest ih =>
    obtain ⟨key, old⟩ := entry
    rw [List.map_cons]
    by_cases same : key = .text name
    · subst same
      cases p (.text name) <;> simp
    · have kept : (if p key then (key, value) else (key, old)).1 = key := by split <;> rfl
      rw [← Prod.eta (if p key then (key, value) else (key, old)), kept, lookup?_cons_ne same, ih,
        lookup?_cons_ne same]

theorem lookup?_insertEntry_self (plain : IsPlainName name) :
    lookup? name (insertEntry entries (.text name) value) = some value := by
  have own : sameKey (.text name) (.text name) = true := text_sameKey_iff.mpr rfl
  unfold insertEntry
  by_cases there : entries.any (fun entry => sameKey entry.1 (.text name)) = true
  · obtain ⟨entry, member, alike⟩ := List.any_eq_true.mp there
    have found : lookup? name entries ≠ none := fun none =>
      lookup?_eq_none_iff.mp none entry member ((asText?_eq_iff plain).mp (sameKey_text_iff.mp alike))
    obtain ⟨old, known⟩ := Option.ne_none_iff_exists'.mp found
    rw [if_pos there, lookup?_map_value (p := fun k => sameKey k (.text name)), if_pos own, known,
      Option.map_some]
  · have absent : lookup? name entries = none := by
      refine lookup?_eq_none_iff.mpr fun entry member is => there (List.any_eq_true.mpr ⟨entry, member, ?_⟩)
      rw [is, own]
    rw [if_neg there, lookup?_append, absent, Option.none_or, lookup?_cons_self]

theorem lookup?_insertEntry_ne (plain : IsPlainName name) (other : key ≠ .text name) :
    lookup? name (insertEntry entries key value) = lookup? name entries := by
  have apart : ¬ sameKey (.text name) key = true := fun same =>
    other ((asText?_eq_iff plain).mp (text_sameKey_iff.mp same))
  unfold insertEntry
  split
  · rw [lookup?_map_value (p := fun k => sameKey k key), if_neg apart]
  · rw [lookup?_append, lookup?_cons_ne other]
    exact Option.or_none

theorem mem_or_value_of_mem_insertEntry (member : entry ∈ insertEntry entries key value) :
    entry ∈ entries ∨ entry.2 = value := by
  unfold insertEntry at member
  split at member
  · obtain ⟨old, inside, same⟩ := List.mem_map.mp member
    by_cases alike : sameKey old.1 key = true
    · rw [if_pos alike] at same
      exact .inr (same ▸ rfl)
    · rw [if_neg alike] at same
      exact .inl (same ▸ inside)
  · rcases List.mem_append.mp member with old | new
    · exact .inl old
    · exact .inr (by rw [List.mem_singleton.mp new])

theorem mem_insertEntry (plain : IsPlainName name) (member : entry ∈ insertEntry entries (.text name) value) :
    entry ∈ entries ∨ entry = (.text name, value) := by
  unfold insertEntry at member
  split at member
  · obtain ⟨old, inside, same⟩ := List.mem_map.mp member
    by_cases alike : sameKey old.1 (.text name) = true
    · rw [if_pos alike, (asText?_eq_iff plain).mp (sameKey_text_iff.mp alike)] at same
      exact .inr same.symm
    · rw [if_neg alike] at same
      exact .inl (same ▸ inside)
  · rcases List.mem_append.mp member with old | new
    · exact .inl old
    · exact .inr (List.mem_singleton.mp new)

/-- Keys each of which is different from those before it. -/
def Distinct (entries : List (Value × Value)) : Prop :=
  (entries.map (·.1)).Pairwise fun a b => sameKey a b = false

theorem keys_insertEntry : (insertEntry entries key value).map (·.1) =
    if entries.any (fun entry => sameKey entry.1 key) then entries.map (·.1)
    else entries.map (·.1) ++ [key] := by
  unfold insertEntry
  split
  · rw [List.map_map]
    refine List.map_congr_left fun entry _ => ?_
    rw [Function.comp_apply]
    split <;> rfl
  · simp

theorem Distinct.insertEntry (distinct : Distinct entries) : Distinct (insertEntry entries key value) := by
  unfold Distinct
  rw [keys_insertEntry]
  by_cases there : entries.any (fun entry => sameKey entry.1 key) = true
  · rw [if_pos there]
    exact distinct
  · rw [if_neg there]
    refine List.pairwise_append.mpr ⟨distinct, List.pairwise_singleton _ _, ?_⟩
    simpa using there

theorem distinct_collectEntries : Distinct (collectEntries entries) := by
  unfold collectEntries
  induction entries using List.reverseRecOn with
  | nil => exact .nil
  | append_singleton earlier entry ih =>
    rw [List.foldl_append]
    exact ih.insertEntry

theorem exists_of_mem_collectEntries (member : entry ∈ collectEntries entries) :
    ∃ given ∈ entries, entry.2 = given.2 := by
  unfold collectEntries at member
  induction entries using List.reverseRecOn with
  | nil => cases member
  | append_singleton earlier last ih =>
    have among : entry ∈
        insertEntry (earlier.foldl (fun found e => insertEntry found e.1 e.2) []) last.1 last.2 := by
      rw [List.foldl_append] at member
      exact member
    rcases mem_or_value_of_mem_insertEntry among with old | new
    · obtain ⟨given, inside, same⟩ := ih old
      exact ⟨given, List.mem_append_left _ inside, same⟩
    · exact ⟨last, by simp, new⟩

theorem collectEntries_of_distinct (distinct : Distinct entries) : collectEntries entries = entries := by
  unfold collectEntries
  induction entries using List.reverseRecOn with
  | nil => rfl
  | append_singleton earlier entry ih =>
    unfold Distinct at distinct
    rw [List.map_append, List.pairwise_append] at distinct
    obtain ⟨before, _, new⟩ := distinct
    have absent : ¬ earlier.any (fun e => sameKey e.1 entry.1) = true := by simpa using new
    rw [List.foldl_append, ih before]
    exact if_neg absent

end SearchFilter.Value
