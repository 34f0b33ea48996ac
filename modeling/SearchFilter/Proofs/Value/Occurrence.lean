import SearchFilter.Proofs.Value.Sense

namespace SearchFilter.Value

variable {same : Value → Value → Bool} {ids keys rest : List Value} {id : Value}

/-- The members of a list that are the same as none before them, in their order. -/
inductive Firsts (same : Value → Value → Bool) : List Value → List Value → Prop
  | nil : Firsts same [] []
  | first {ids keys : List Value} {id : Value} (earlier : Firsts same ids keys)
      (new : ∀ other ∈ ids, same other id = false) : Firsts same (ids ++ [id]) (keys ++ [id])
  | again {ids keys : List Value} {id : Value} (earlier : Firsts same ids keys)
      (known : ∃ other ∈ ids, same other id = true) : Firsts same (ids ++ [id]) keys

/-- Two values are one object, so far as it shows: one thing that is no number. -/
def oneObject (a b : Value) : Bool :=
  match a.asNumber?, b.asNumber? with
  | some m, some n => m.identical n
  | _, _ => false

/-- Two values are equal, whether they are one object or not: what is no number is equal to nothing. -/
def equals (a b : Value) : Bool :=
  match a.asNumber?, b.asNumber? with
  | some m, some n => (m.equal? n).getD false
  | _, _ => alike a b

/-- Two keys are the same if they are one object or equal. -/
theorem sameKey_eq (a b : Value) : sameKey a b = (oneObject a b || equals a b) := by
  cases a <;> cases b <;> simp [sameKey, oneObject, equals, alike, atomsAlike, asNumber?]

namespace Firsts

theorem sublist (firsts : Firsts same ids keys) : keys.Sublist ids := by
  induction firsts with
  | nil => exact .slnil
  | first _ _ ih => exact ih.append (.refl _)
  | again _ _ ih => exact ih.trans (List.sublist_append_left _ _)

theorem pairwise (firsts : Firsts same ids keys) : keys.Pairwise fun a b => same a b = false := by
  induction firsts with
  | nil => exact .nil
  | first earlier new ih =>
    refine List.pairwise_append.mpr ⟨ih, List.pairwise_singleton _ _, ?_⟩
    rintro a member b last
    rw [List.mem_singleton.mp last]
    exact new a (earlier.sublist.mem member)
  | again _ _ ih => exact ih

theorem unique {others : List Value} (firsts : Firsts same ids keys) (again : Firsts same ids others) :
    keys = others := by
  induction firsts generalizing others with
  | nil =>
    generalize listed : ([] : List Value) = all at again
    cases again with
    | nil => rfl
    | first | again => simp at listed
  | @first ids _ id _ new ih =>
    generalize listed : ids ++ [id] = all at again
    cases again with
    | nil => simp at listed
    | first earlier _ =>
      obtain ⟨rfl, rfl⟩ := List.append_singleton_inj.mp listed
      rw [ih earlier]
    | again _ known =>
      obtain ⟨rfl, rfl⟩ := List.append_singleton_inj.mp listed
      obtain ⟨other, inside, known⟩ := known
      cases (new other inside).symm.trans known
  | @again ids _ id _ known ih =>
    generalize listed : ids ++ [id] = all at again
    cases again with
    | nil => simp at listed
    | first _ new =>
      obtain ⟨rfl, rfl⟩ := List.append_singleton_inj.mp listed
      obtain ⟨other, inside, known⟩ := known
      cases (new other inside).symm.trans known
    | again earlier _ =>
      obtain ⟨rfl, rfl⟩ := List.append_singleton_inj.mp listed
      exact ih earlier

/-- None is lost: each of the list is among them or the same as one of them. -/
theorem covers (firsts : Firsts sameKey ids keys) (fit : ∀ id ∈ ids, id.isKey = true) :
    ∀ id ∈ ids, id ∈ keys ∨ ∃ key ∈ keys, sameKey key id = true := by
  induction firsts with
  | nil => nofun
  | first _ _ ih =>
    intro id member
    rcases List.mem_append.mp member with before | last
    · rcases ih (fun a inside => fit a (List.mem_append_left _ inside)) id before with there | ⟨key, there, same⟩
      · exact .inl (List.mem_append_left _ there)
      · exact .inr ⟨key, List.mem_append_left _ there, same⟩
    · exact .inl (List.mem_append_right _ last)
  | again earlier known ih =>
    have fits := fun a inside => fit a (List.mem_append_left _ inside)
    intro id member
    rcases List.mem_append.mp member with before | last
    · exact ih fits id before
    · obtain rfl := List.mem_singleton.mp last
      obtain ⟨other, inside, same⟩ := known
      rcases ih fits other inside with there | ⟨key, there, alike⟩
      · exact .inr ⟨other, there, same⟩
      · have keyed := fits key (earlier.sublist.mem there)
        exact .inr ⟨key, there, sameKey_trans keyed (fits other inside) (fit _ member) alike same⟩

theorem same_iff {a : Value} (firsts : Firsts sameKey ids keys) (fit : ∀ id ∈ ids, id.isKey = true)
    (keyed : a.isKey = true) :
    (∃ key ∈ keys, sameKey key a = true) ↔ ∃ id ∈ ids, sameKey id a = true := by
  constructor
  · rintro ⟨key, there, same⟩
    exact ⟨key, firsts.sublist.mem there, same⟩
  · rintro ⟨id, member, same⟩
    rcases firsts.covers fit id member with there | ⟨key, there, alike⟩
    · exact ⟨id, there, same⟩
    · have fits := fit key (firsts.sublist.mem there)
      exact ⟨key, there, sameKey_trans fits (fit id member) keyed alike same⟩

end Firsts

/-- One step of collecting: a member is added if it is not there. -/
def collect (found : List Value) (item : Value) : List Value :=
  if found.any (sameKey item) then found else found ++ [item]

/-- It is enough to look among the collected ones for a member that is the same. -/
theorem Firsts.collect (firsts : Firsts sameKey ids keys) (fit : ∀ a ∈ ids, a.isKey = true)
    (keyed : id.isKey = true) : Firsts sameKey (ids ++ [id]) (Value.collect keys id) := by
  have found_iff : keys.any (sameKey id) = true ↔ ∃ other ∈ ids, sameKey other id = true := by
    rw [← firsts.same_iff fit keyed, List.any_eq_true]
    refine exists_congr fun key => and_congr_right fun there => ?_
    have fits := fit key (firsts.sublist.mem there)
    exact ⟨sameKey_symm keyed fits, sameKey_symm fits keyed⟩
  unfold Value.collect
  by_cases known : ∃ other ∈ ids, sameKey other id = true
  · rw [if_pos (found_iff.mpr known)]
    exact .again firsts known
  · rw [if_neg (mt found_iff.mp known)]
    exact .first firsts (by simpa using known)

theorem Firsts.foldl_collect (firsts : Firsts sameKey ids keys) (fit : ∀ id ∈ ids ++ rest, id.isKey = true) :
    Firsts sameKey (ids ++ rest) (rest.foldl Value.collect keys) := by
  induction rest generalizing ids keys with
  | nil => simpa using firsts
  | cons id rest ih =>
    have fits : ∀ a ∈ ids, a.isKey = true := fun a inside => fit a (List.mem_append_left _ inside)
    have keyed : id.isKey = true := fit id (by simp)
    rw [List.append_cons] at fit ⊢
    exact ih (firsts.collect fits keyed) fit

/-- The members that are collected of keys are those at their first places. -/
theorem firsts_collectMembers (fit : ∀ id ∈ ids, id.isKey = true) : Firsts sameKey ids (collectMembers ids) :=
  Firsts.nil.foldl_collect fit

/-- Puts a value under a key that is not there. -/
def setDefault (entries : List (Value × Value)) (key value : Value) : List (Value × Value) :=
  if entries.any (fun entry => sameKey key entry.1) then entries else entries ++ [(key, value)]

/-- The mapping of values to themselves, filled with one after another. -/
def selfMapping (ids : List Value) : List (Value × Value) :=
  ids.foldl (fun entries id => setDefault entries id id) []

theorem foldl_setDefault (ids found : List Value) :
    ids.foldl (fun entries id => setDefault entries id id) (found.map fun key => (key, key)) =
      (ids.foldl collect found).map fun key => (key, key) := by
  refine List.foldl_hom (fun found : List Value => found.map fun key => (key, key)) ?_
  intro found id
  simp only [setDefault, collect, List.any_map, Function.comp_def]
  split <;> simp

theorem selfMapping_eq (ids : List Value) :
    selfMapping ids = (collectMembers ids).map fun key => (key, key) :=
  foldl_setDefault ids []

end SearchFilter.Value
