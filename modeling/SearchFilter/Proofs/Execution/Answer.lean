import Mathlib.Data.List.Forall2
import SearchFilter.Execution
import SearchFilter.Proofs.Result

namespace SearchFilter

/-- What stands in a value at the end of a path of names, each of them an entry of a mapping. -/
inductive Value.At : List String → Value → Value → Prop
  | here {v : Value} : At [] v v
  | entry {name : String} {path : List String} {entries : List (Value × Value)} {inner v : Value}
      (found : Value.lookup? name entries = some inner) (deeper : At path inner v) :
      At (name :: path) (.map entries) v

namespace Execution

variable {name : String} {path : List String} {entityType answer v hit id : Value} {hits ids : List Value}
  {q : Query} {failure : Failure} {outcome : Outcome}

/-- Follows a path of names. -/
def follow : List String → Value → Except Lack Value
  | [], v => .ok v
  | name :: rest, v => part name v >>= follow rest

theorem follow_eq_ok_iff : follow path answer = .ok v ↔ Value.At path answer v := by
  induction path generalizing answer with
  | nil =>
    constructor
    · intro same
      exact Except.ok.inj same ▸ .here
    · intro stands
      cases stands
      rfl
  | cons name rest ih =>
    rw [follow, Result.bind_eq_ok_iff]
    constructor
    · rintro ⟨inner, found, deeper⟩
      cases answer with
      | map entries =>
        cases looked : Value.lookup? name entries with
        | none => simp [part, looked] at found
        | some first =>
          simp only [part, looked, Except.ok.injEq] at found
          exact .entry looked (found ▸ ih.mp deeper)
      | _ => cases found
    · intro stands
      cases stands with
      | entry found deeper => exact ⟨_, by simp [part, found], ih.mpr deeper⟩

theorem readCount_eq : readCount entityType answer =
    (follow ["count"] answer).mapError fun lack => .cluster (.noCount entityType lack) := by
  unfold readCount
  cases read : part "count" answer <;> simp [follow, read]

theorem readHits_eq : readHits entityType answer =
    (follow ["hits", "hits"] answer).mapError fun lack => .cluster (.noHits entityType lack) := by
  unfold readHits
  cases outer : part "hits" answer with
  | error lack => simp [follow, outer]
  | ok inner => cases read : part "hits" inner <;> simp [follow, outer, read]

/-- A hit has an identifier: it is a mapping with an entry for one, which is fit for a key. -/
def Identifies (hit id : Value) : Prop :=
  Value.At ["_id"] hit id ∧ id.isKey = true

theorem identifier_eq_ok_iff : identifier hit = .ok id ↔ Identifies hit id := by
  rw [Identifies, ← follow_eq_ok_iff]
  cases hit with
  | map entries =>
    cases looked : Value.lookup? "_id" entries with
    | none => simp [identifier, follow, part, looked]
    | some found =>
      have read : follow ["_id"] (.map entries) = .ok found := by simp [follow, part, looked]
      rw [read, Except.ok.injEq, identifier, looked]
      cases key : found.isKey with
      | true =>
        simp only [key, if_true, Except.ok.injEq]
        exact ⟨fun same => ⟨same, same ▸ key⟩, And.left⟩
      | false =>
        simp only [key, Bool.false_eq_true, if_false, reduceCtorEq, false_iff, not_and]
        intro same
        simp [← same, key]
  | _ => simp [identifier, follow, part]

/-- A hit without an identifier ends in an error that is none of the library's own. -/
theorem foreign_of_identifier (failed : identifier hit = .error failure) : failure.kind? = none := by
  cases hit with
  | map entries =>
    cases looked : Value.lookup? "_id" entries with
    | none =>
      simp only [identifier, looked, Except.error.injEq] at failed
      exact failed ▸ rfl
    | some found =>
      cases key : found.isKey with
      | true => simp [identifier, looked, key] at failed
      | false =>
        simp only [identifier, looked, key, Bool.false_eq_true, if_false, Except.error.injEq] at failed
        exact failed ▸ rfl
  | _ =>
    cases failed
    rfl

theorem identifiers_eq_ok_iff : identifiers hits = .ok ids ↔ List.Forall₂ Identifies hits ids := by
  induction hits generalizing ids with
  | nil =>
    rw [List.forall₂_nil_left_iff]
    constructor
    · intro read
      exact (Except.ok.inj read).symm
    · rintro rfl
      rfl
  | cons hit rest ih =>
    have steps : identifiers (hit :: rest) = identifier hit >>= fun id =>
      identifiers rest >>= fun ids => .ok (id :: ids) := rfl
    rw [steps, List.forall₂_cons_left_iff, Result.bind_eq_ok_iff]
    constructor
    · rintro ⟨id, first, more⟩
      obtain ⟨later, others, same⟩ := Result.bind_eq_ok_iff.mp more
      exact ⟨id, later, identifier_eq_ok_iff.mp first, ih.mp others, (Except.ok.inj same).symm⟩
    · rintro ⟨id, later, first, others, rfl⟩
      exact ⟨id, identifier_eq_ok_iff.mpr first, by rw [ih.mpr others]; rfl⟩

theorem foreign_of_identifiers (failed : identifiers hits = .error failure) : failure.kind? = none := by
  induction hits with
  | nil => cases failed
  | cons hit rest ih =>
    have steps : identifiers (hit :: rest) = identifier hit >>= fun id =>
      identifiers rest >>= fun ids => .ok (id :: ids) := rfl
    rw [steps] at failed
    rcases Result.bind_eq_error_iff.mp failed with first | ⟨id, _, later⟩
    · exact foreign_of_identifier first
    · rcases Result.bind_eq_error_iff.mp later with others | ⟨_, _, none⟩
      · exact ih others
      · cases none

theorem identifiers_isOk_iff :
    (∃ ids, identifiers hits = .ok ids) ↔ ∀ hit ∈ hits, ∃ id, Identifies hit id := by
  simp only [identifiers_eq_ok_iff]
  induction hits with
  | nil => simp
  | cons hit rest ih =>
    rw [List.forall_mem_cons, ← ih]
    constructor
    · rintro ⟨ids, all⟩
      obtain ⟨id, later, first, others, rfl⟩ := List.forall₂_cons_left_iff.mp all
      exact ⟨⟨id, first⟩, later, others⟩
    · rintro ⟨⟨id, first⟩, later, others⟩
      exact ⟨id :: later, .cons first others⟩

/-- What an answer to a method holds. -/
def outcomeOf (method : Method) (entityType answer : Value) : Except Failure Outcome :=
  match method with
  | .count => (readCount entityType answer).map .count
  | .search => (readIdentifiers entityType answer).map .identifiers

/-- The path to the part of an answer that a method asks for. -/
def pathOf : Method → List String
  | .count => ["count"]
  | .search => ["hits", "hits"]

/-- An answer to a method holds an outcome: a count, or hits that can be gone through and have identifiers
all. -/
inductive Holds (answer : Value) : Method → Outcome → Prop
  | count {c : Value} (counted : Value.At ["count"] answer c) : Holds answer .count (.count c)
  | identifiers {found : Value} {hits ids : List Value} (listed : Value.At ["hits", "hits"] answer found)
      (items : found.items? = some hits) (each : List.Forall₂ Identifies hits ids) :
      Holds answer .search (.identifiers (Value.collectMembers ids))

/-- An answer to a method lacks the part that it asks for. -/
def Lacks (answer : Value) (method : Method) : Prop :=
  ∀ v, ¬ Value.At (pathOf method) answer v

/-- An answer to a search has hits, but they cannot be gone through, or not all of them have identifiers. -/
inductive Spoils (answer : Value) : Method → Prop
  | unlisted {found : Value} (there : Value.At ["hits", "hits"] answer found)
      (none : found.items? = none) : Spoils answer .search
  | nameless {found hit : Value} {hits : List Value} (there : Value.At ["hits", "hits"] answer found)
      (items : found.items? = some hits) (member : hit ∈ hits) (none : ∀ id, ¬ Identifies hit id) :
      Spoils answer .search

/-- The ways in which the reading of an answer ends. -/
inductive Read (answer : Value) (method : Method) : Except Failure Outcome → Prop
  | held {outcome : Outcome} (holds : Holds answer method outcome) : Read answer method (.ok outcome)
  | lacking {failure : Failure} (lacks : Lacks answer method)
      (own : failure.kind? = some .clusterQuery) : Read answer method (.error failure)
  | spoilt {failure : Failure} (spoils : Spoils answer method) (foreign : failure.kind? = none) :
      Read answer method (.error failure)

theorem read_outcomeOf (method : Method) (entityType answer : Value) :
    Read answer method (outcomeOf method entityType answer) := by
  cases method with
  | count =>
    rw [outcomeOf, readCount_eq]
    cases read : follow ["count"] answer with
    | ok c => exact .held (.count (follow_eq_ok_iff.mp read))
    | error lack =>
      refine .lacking (fun v stands => ?_) rfl
      cases read.symm.trans (follow_eq_ok_iff.mpr stands)
  | search =>
    rw [outcomeOf, readIdentifiers, readHits_eq]
    cases read : follow ["hits", "hits"] answer with
    | error lack =>
      refine .lacking (fun v stands => ?_) rfl
      cases read.symm.trans (follow_eq_ok_iff.mpr stands)
    | ok found =>
      have listed := follow_eq_ok_iff.mp read
      simp only [Result.mapError_ok, Result.ok_bind]
      cases items : found.items? with
      | none => exact .spoilt (.unlisted listed items) rfl
      | some hits =>
        cases each : identifiers hits with
        | ok ids =>
          simp only [each, Result.map_ok]
          exact .held (.identifiers listed items (identifiers_eq_ok_iff.mp each))
        | error failure =>
          simp only [each, Result.map_error]
          refine .spoilt ?_ (foreign_of_identifiers each)
          -- the failure says only that some hit has no identifier, not which
          have lost : ¬ ∀ hit ∈ hits, ∃ id, Identifies hit id := by
            rw [← identifiers_isOk_iff, each]
            simp
          push Not at lost
          obtain ⟨hit, member, none⟩ := lost
          exact .nameless listed items member none

private theorem at_unique {w : Value} (first : Value.At path answer v) (second : Value.At path answer w) :
    v = w :=
  Except.ok.inj ((follow_eq_ok_iff.mpr first).symm.trans (follow_eq_ok_iff.mpr second))

theorem Holds.unique {method : Method} {other : Outcome} (first : Holds answer method outcome)
    (second : Holds answer method other) : outcome = other := by
  cases first with
  | count counted =>
    cases second with
    | count again => rw [at_unique counted again]
  | identifiers listed items each =>
    cases second with
    | identifiers again same other =>
      cases at_unique listed again
      cases items.symm.trans same
      have both := (identifiers_eq_ok_iff.mpr each).symm.trans (identifiers_eq_ok_iff.mpr other)
      rw [Except.ok.inj both]

theorem Holds.has_part {method : Method} (holds : Holds answer method outcome) : ¬ Lacks answer method := by
  intro lacks
  cases holds with
  | count counted => exact lacks _ counted
  | identifiers listed => exact lacks _ listed

theorem Spoils.has_part {method : Method} (spoils : Spoils answer method) : ¬ Lacks answer method := by
  intro lacks
  cases spoils with
  | unlisted there | nameless there => exact lacks _ there

theorem Holds.sound {method : Method} (holds : Holds answer method outcome) : ¬ Spoils answer method := by
  intro spoils
  cases holds with
  | count => cases spoils
  | identifiers listed items each =>
    cases spoils with
    | unlisted there none =>
      cases at_unique listed there
      cases items.symm.trans none
    | nameless there again member none =>
      cases at_unique listed there
      cases items.symm.trans again
      obtain ⟨id, identified⟩ :=
        identifiers_isOk_iff.mp ⟨_, identifiers_eq_ok_iff.mpr each⟩ _ member
      exact none id identified

namespace Read

variable {method : Method} {result : Except Failure Outcome}

theorem ok_iff (read : Read answer method result) :
    result = .ok outcome ↔ Holds answer method outcome := by
  cases read with
  | held holds =>
    constructor
    · intro same
      cases same
      exact holds
    · intro other
      rw [holds.unique other]
  | lacking lacks own => exact ⟨nofun, fun holds => absurd lacks holds.has_part⟩
  | spoilt spoils foreign => exact ⟨nofun, fun holds => absurd spoils holds.sound⟩

theorem lacks_iff (read : Read answer method result) :
    (∃ failure, result = .error failure ∧ failure.kind? = some .clusterQuery) ↔
      Lacks answer method := by
  constructor
  · rintro ⟨failure, same, own⟩
    cases read with
    | held holds => cases same
    | lacking lacks _ => exact lacks
    | spoilt spoils foreign =>
      cases same
      cases own.symm.trans foreign
  · intro lacks
    cases read with
    | held holds => exact absurd lacks holds.has_part
    | lacking _ own => exact ⟨_, rfl, own⟩
    | spoilt spoils foreign => exact absurd lacks spoils.has_part

theorem spoils_iff (read : Read answer method result) :
    (∃ failure, result = .error failure ∧ failure.kind? = none) ↔ Spoils answer method := by
  constructor
  · rintro ⟨failure, same, foreign⟩
    cases read with
    | held holds => cases same
    | lacking lacks own =>
      cases same
      cases own.symm.trans foreign
    | spoilt spoils _ => exact spoils
  · intro spoils
    cases read with
    | held holds => exact absurd spoils holds.sound
    | lacking lacks own => exact absurd lacks spoils.has_part
    | spoilt _ foreign => exact ⟨_, rfl, foreign⟩

end Read

/-- An answer holds an outcome or lacks its part unless its hits are spoilt. -/
theorem holds_or_lacks_iff {method : Method} :
    (∃ outcome, Holds answer method outcome) ∨ Lacks answer method ↔ ¬ Spoils answer method := by
  constructor
  · rintro (⟨outcome, holds⟩ | lacks)
    · exact holds.sound
    · intro spoils
      exact spoils.has_part lacks
  · intro sound
    have read := read_outcomeOf method .null answer
    generalize outcomeOf method .null answer = result at read
    cases read with
    | held holds => exact .inl ⟨_, holds⟩
    | lacking lacks => exact .inr lacks
    | spoilt spoils => exact absurd spoils sound

end Execution

end SearchFilter
