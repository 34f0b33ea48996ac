import SearchFilter.Value.Equality

/-!
What makes two keys of a mapping one. Main statement: keys are the same exactly if they have one sense, and so
sameness of keys is symmetric and transitive. What is no number has no sense but the object that it is.
-/

namespace SearchFilter

/-- What a key denotes, whatever it is written as. A number denotes its position if it has one, and else
the object that it is. -/
inductive Sense
  | nothing
  | number (p : Position ⊕ Number)
  | date (d : Date)
  | moment (zoned : Bool) (instant : Int)
  | bytes (content : List UInt8)
  | text (s : String)
  | tuple (items : List Sense)

theorem Position.coincides_iff {p q : Position} : p.coincides q = true ↔ p = q ∧ p ≠ .nowhere := by
  cases p <;> cases q <;> simp [coincides]

namespace Number

variable {m n : Number}

def sense (n : Number) : Position ⊕ Number :=
  if n.isNan then .inr n else .inl n.position

theorem isNan_iff : n.isNan = true ↔ n.position = .nowhere := by
  rw [isNan, beq_iff_eq]

theorem same_iff (plainM : m.signals = false) (plainN : n.signals = false) :
    m.identical n = true ∨ (m.equal? n).getD false = true ↔ m.sense = n.sense := by
  have compared : (m.equal? n).getD false = m.position.coincides n.position := by
    simp [equal?, plainM, plainN]
  rw [compared, Position.coincides_iff, identical, Bool.and_eq_true, beq_iff_eq]
  cases nanM : m.isNan with
  | true =>
    have nowhere := isNan_iff.mp nanM
    cases nanN : n.isNan with
    | true => simp [sense, nanM, nanN, nowhere]
    | false =>
      have other : m ≠ n := by
        rintro rfl
        cases nanM.symm.trans nanN
      simp [sense, nanM, nanN, nowhere, other]
  | false =>
    have there : m.position ≠ .nowhere := fun nowhere => by cases nanM.symm.trans (isNan_iff.mpr nowhere)
    cases nanN : n.isNan with
    | true => simp [sense, nanM, nanN, isNan_iff.mp nanN, there]
    | false => simp [sense, nanM, nanN, there]

end Number

namespace Value

mutual

/-- The sense of a value that may be a key. -/
def sense? : Value → Option Sense
  | null => some .nothing
  | bool b => some (.number (Number.int (if b then 1 else 0)).sense)
  | number n => some (.number n.sense)
  | date d => some (.date d)
  | moment m => some (.moment m.offset.isSome m.instant)
  | bytes content => some (.bytes content)
  | text s => some (.text s)
  | operator op => some (.text op.name)
  | conjunction c => some (.text c.name)
  | tuple items => (senses? items).map .tuple
  | list _ | set _ | map _ => none
termination_by structural v => v

def senses? : List Value → Option (List Sense)
  | [] => some []
  | item :: rest =>
    match item.sense?, senses? rest with
    | some first, some later => some (first :: later)
    | _, _ => none
termination_by structural items => items

end

variable {a b c : Value} {xs ys : List Value}

/-- Two values have a sense, and it is one. -/
def Agree (a b : Value) : Prop :=
  ∃ s, b.sense? = some s ∧ a.sense? = some s

theorem Agree.symm (agree : a.Agree b) : b.Agree a := by
  obtain ⟨s, first, second⟩ := agree
  exact ⟨s, second, first⟩

theorem Agree.trans (first : a.Agree b) (second : b.Agree c) : a.Agree c := by
  obtain ⟨s, senseB, senseA⟩ := first
  obtain ⟨t, senseC, again⟩ := second
  rw [senseB, Option.some.injEq] at again
  exact ⟨t, senseC, again ▸ senseA⟩

/-- Two lists of values have senses, and they are one. -/
def AgreeAll (xs ys : List Value) : Prop :=
  ∃ senses, senses? ys = some senses ∧ senses? xs = some senses

theorem agree_tuple_iff : Agree (.tuple xs) (.tuple ys) ↔ AgreeAll xs ys := by
  simp only [Agree, AgreeAll, sense?, Option.map_eq_some_iff]
  constructor
  · rintro ⟨_, ⟨senses, first, rfl⟩, again, second, same⟩
    cases same
    exact ⟨senses, first, second⟩
  · rintro ⟨senses, first, second⟩
    exact ⟨_, ⟨senses, first, rfl⟩, senses, second, rfl⟩

theorem agreeAll_cons_iff {x y : Value} : AgreeAll (x :: xs) (y :: ys) ↔ x.Agree y ∧ AgreeAll xs ys := by
  simp only [AgreeAll, Agree, senses?]
  cases x.sense? <;> cases y.sense? <;> cases senses? xs <;> cases senses? ys <;> simp

theorem not_agreeAll_nil_cons {x : Value} : ¬ AgreeAll [] (x :: xs) ∧ ¬ AgreeAll (x :: xs) [] := by
  simp only [AgreeAll, senses?]
  cases x.sense? <;> cases senses? xs <;> simp

private theorem alike_iff_of_parted (keyA : a.isKey = true) (keyB : b.isKey = true)
    (apart : ∀ xs ys, a = .tuple xs → b ≠ .tuple ys) : alike a b = true ↔ a.Agree b := by
  have atoms : alike a b = atomsAlike a b := by
    unfold alike
    split
    · cases keyA
    · exact absurd rfl (apart _ _ rfl)
    · cases keyA
    · cases keyA
    · rfl
  have plain (n : Int) : (Number.int n).signals = false := rfl
  rw [atoms]
  cases a <;> cases b <;> simp_all [atomsAlike, Agree, sense?, asNumber?, asText?, isKey, Moment.same,
    Number.same_iff]

mutual

private theorem alike_iff : ∀ {a b : Value}, a.isKey = true → b.isKey = true →
    (alike a b = true ↔ a.Agree b)
  | .tuple xs, b, keyA, keyB => by
    cases b with
    | tuple ys =>
      rw [alike, agree_tuple_iff]
      exact allAlike_iff keyA keyB
    | _ => exact alike_iff_of_parted keyA keyB nofun
  | .null, _, keyA, keyB | .bool _, _, keyA, keyB | .number _, _, keyA, keyB | .date _, _, keyA, keyB
  | .moment _, _, keyA, keyB | .bytes _, _, keyA, keyB | .text _, _, keyA, keyB
  | .operator _, _, keyA, keyB | .conjunction _, _, keyA, keyB =>
    alike_iff_of_parted keyA keyB nofun

private theorem allAlike_iff : ∀ {xs ys : List Value}, allKeys xs = true → allKeys ys = true →
    (allAlike xs ys = true ↔ AgreeAll xs ys)
  | [], [], _, _ => by simp [allAlike, AgreeAll, senses?]
  | [], y :: ys, _, _ => by simp [allAlike, not_agreeAll_nil_cons]
  | x :: xs, [], _, _ => by simp [allAlike, not_agreeAll_nil_cons]
  | x :: xs, y :: ys, keysX, keysY => by
    rw [allKeys, Bool.and_eq_true] at keysX keysY
    rw [allAlike, Bool.and_eq_true, agreeAll_cons_iff, alike_iff keysX.1 keysY.1,
      allAlike_iff keysX.2 keysY.2]

end

/-- Two keys are the same exactly if they have one sense. -/
theorem sameKey_iff (keyA : a.isKey = true) (keyB : b.isKey = true) :
    sameKey a b = true ↔ a.Agree b :=
  alike_iff keyA keyB

theorem sameKey_symm (keyA : a.isKey = true) (keyB : b.isKey = true) (same : sameKey a b = true) :
    sameKey b a = true :=
  (sameKey_iff keyB keyA).mpr ((sameKey_iff keyA keyB).mp same).symm

theorem sameKey_trans (keyA : a.isKey = true) (keyB : b.isKey = true) (keyC : c.isKey = true)
    (first : sameKey a b = true) (second : sameKey b c = true) : sameKey a c = true :=
  (sameKey_iff keyA keyC).mpr
    (((sameKey_iff keyA keyB).mp first).trans ((sameKey_iff keyB keyC).mp second))

end Value

end SearchFilter
