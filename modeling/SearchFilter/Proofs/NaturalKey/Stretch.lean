import Mathlib.Data.List.Basic
import Mathlib.Data.List.TakeWhile
import SearchFilter.NaturalKey

namespace SearchFilter

/-- A part of a text, all of it of one kind, with characters of the other kind on both sides if
any. -/
def Text.IsStretch (p : Char → Bool) (kind : Bool) (text part : List Char) : Prop :=
  ∃ before after, text = before ++ part ++ after ∧ part ≠ [] ∧ (∀ c ∈ part, p c = kind) ∧
    (∀ c ∈ before.getLast?, p c ≠ kind) ∧ (∀ c ∈ after.head?, p c ≠ kind)

namespace NaturalKey

open Text

variable {p : Char → Bool} {kind : Bool} {text run : List Char}

/-- The first run goes on as long as the characters are of the kind of the first. -/
theorem runs_cons (c : Char) (rest : List Char) :
    runs p (c :: rest) =
      (c :: rest.takeWhile (p · == p c)) :: runs p (rest.dropWhile (p · == p c)) := by
  induction rest generalizing c with
  | nil => rfl
  | cons d rest ih =>
    rw [runs, ih d]
    by_cases same : p c = p d
    · simp [same]
    · have different : (p d == p c) = false := by simpa using Ne.symm same
      simp [same, different, ih d]

private theorem kind_of_mem_first {c d : Char} {rest : List Char}
    (present : d ∈ c :: rest.takeWhile (p · == p c)) : p d = p c := by
  rcases List.mem_cons.mp present with rfl | inside
  · rfl
  · simpa using List.mem_takeWhile_imp inside

private theorem kind_after_first {c d : Char} {rest : List Char}
    (next : d ∈ (rest.dropWhile (p · == p c)).head?) : p d ≠ p c := by
  have other := List.head?_dropWhile_not (p · == p c) rest
  rw [Option.mem_def.mp next] at other
  simpa using other

theorem isStretch_of_mem_runs (present : run ∈ runs p text) :
    ∃ kind, IsStretch p kind text run := by
  induction size : text.length using Nat.strongRecOn generalizing text with
  | ind n ih =>
    cases text with
    | nil => simp [runs] at present
    | cons c rest =>
      rw [runs_cons] at present
      rcases List.mem_cons.mp present with rfl | later
      · refine ⟨p c, [], rest.dropWhile (p · == p c), ?_, by simp, fun _ => kind_of_mem_first,
          by simp, fun _ => kind_after_first⟩
        simp [List.takeWhile_append_dropWhile]
      · have shorter : (rest.dropWhile (p · == p c)).length < n := by
          have := (List.dropWhile_sublist (l := rest) (p · == p c)).length_le
          simp only [List.length_cons] at size
          omega
        obtain ⟨kind, before, after, whole, nonempty, uniform, left, right⟩ :=
          ih _ shorter later rfl
        refine ⟨kind, (c :: rest.takeWhile (p · == p c)) ++ before, after, ?_, nonempty, uniform,
          ?_, right⟩
        · rw [List.append_assoc, List.append_assoc, ← List.append_assoc before, ← whole,
            List.cons_append, List.takeWhile_append_dropWhile]
        · intro d last
          cases before with
          | cons e before =>
            rw [List.getLast?_append_of_ne_nil _ (List.cons_ne_nil e before)] at last
            exact left d last
          | nil =>
            -- the run opens what is left, so its first character ended the run before it
            rw [List.append_nil] at last
            obtain ⟨e, run, rfl⟩ := List.exists_cons_of_ne_nil nonempty
            have next : e ∈ (rest.dropWhile (p · == p c)).head? := by simp [whole]
            have ended : p e ≠ p c := kind_after_first next
            rw [kind_of_mem_first (List.mem_of_getLast? last), ← uniform e List.mem_cons_self]
            exact ended.symm

private theorem dropWhile_of_head {q : Char → Bool} {rest : List Char}
    (stop : ∀ c ∈ rest.head?, q c = false) : rest.dropWhile q = rest := by
  cases rest with
  | nil => rfl
  | cons c rest => simp [stop c rfl]

private theorem takeWhile_of_head {q : Char → Bool} {rest : List Char}
    (stop : ∀ c ∈ rest.head?, q c = false) : rest.takeWhile q = [] := by
  cases rest with
  | nil => rfl
  | cons c rest => simp [stop c rfl]

/-- A part of one kind that nothing of its kind follows is the first run. -/
theorem runs_append {rest : List Char} (nonempty : run ≠ []) (uniform : ∀ c ∈ run, p c = kind)
    (stop : ∀ c ∈ rest.head?, p c ≠ kind) : runs p (run ++ rest) = run :: runs p rest := by
  obtain ⟨d, part, rfl⟩ := List.exists_cons_of_ne_nil nonempty
  have opens : p d = kind := uniform d List.mem_cons_self
  have inside : ∀ c ∈ part, (p c == p d) = true := by
    intro c present
    simp [uniform c (List.mem_cons_of_mem d present), opens]
  have outside : ∀ c ∈ rest.head?, (p c == p d) = false := by
    intro c next
    simpa [opens] using stop c next
  rw [List.cons_append, runs_cons, List.takeWhile_append_of_pos inside,
    List.dropWhile_append_of_pos inside, takeWhile_of_head outside, dropWhile_of_head outside,
    List.append_nil]

theorem mem_runs_of_isStretch (stretch : IsStretch p kind text run) : run ∈ runs p text := by
  obtain ⟨before, after, rfl, nonempty, uniform, left, right⟩ := stretch
  obtain ⟨d, part, rfl⟩ := List.exists_cons_of_ne_nil nonempty
  have opens : p d = kind := uniform d List.mem_cons_self
  induction size : before.length using Nat.strongRecOn generalizing before with
  | ind n ih =>
    cases before with
    | nil =>
      rw [List.nil_append, runs_append nonempty uniform right]
      exact List.mem_cons_self
    | cons c before =>
      rw [List.cons_append, List.cons_append, runs_cons, List.append_assoc, List.dropWhile_append]
      apply List.mem_cons_of_mem
      split
      · -- only characters like the first stand before the part
        next consumed =>
        have all := List.dropWhile_eq_nil_iff.mp (List.isEmpty_iff.mp consumed)
        have last : p ((c :: before).getLast (List.cons_ne_nil c before)) = p c := by
          rcases List.mem_cons.mp (List.getLast_mem (List.cons_ne_nil c before)) with same | inside
          · rw [same]
          · simpa using all _ inside
        have different : p c ≠ kind := by
          rw [← last]
          exact left _ (List.getLast?_eq_some_getLast _)
        rw [dropWhile_of_head (by simpa [opens] using different.symm)]
        exact ih 0 (by simp [← size]) [] (by simp) rfl
      · next remaining =>
        rw [← List.append_assoc]
        have nonempty : before.dropWhile (p · == p c) ≠ [] := by simpa using remaining
        refine ih _ ?_ (before.dropWhile (p · == p c)) ?_ rfl
        · have := (List.dropWhile_sublist (l := before) (p · == p c)).length_le
          simp only [List.length_cons] at size
          omega
        · intro e last
          obtain ⟨skipped, whole⟩ := List.dropWhile_suffix (l := before) (p · == p c)
          apply left e
          rw [← whole, ← List.cons_append, List.getLast?_append_of_ne_nil _ nonempty]
          exact last

end NaturalKey

end SearchFilter
