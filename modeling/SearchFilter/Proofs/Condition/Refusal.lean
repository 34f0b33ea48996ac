import SearchFilter.Proofs.Condition.Shape
import SearchFilter.Proofs.Value.Writable

namespace SearchFilter

theorem Malformed.refusal_eq {cause : Malformed} {check : Check}
    (shown : ∀ value ∈ cause.shown, value.isWritable = true) : cause.refusal check = .malformed cause := by
  rw [refusal, if_pos (List.all_eq_true.mpr shown)]

/-- Whether a refusal says what is wrong, and not only that this would take too long a text. -/
def Refusal.isTold : Refusal → Bool
  | .unwritable _ => false
  | _ => true

theorem Refusal.kind_of_isTold {r : Refusal} (told : r.isTold = true) :
    r.toFailure.kind? = some .malformedCondition ∨ r.toFailure.kind? = some .unsupportedOperator := by
  cases r with
  | malformed cause => exact .inl rfl
  | unsupported cause => exact .inr rfl
  | unwritable check => cases told

theorem Malformed.isTold_refusal {cause : Malformed} {check : Check}
    (shown : ∀ value ∈ cause.shown, value.isWritable = true) :
    (cause.refusal check).isTold = true := by
  rw [refusal_eq shown]
  rfl

theorem Malformed.refusal_ne_unsupported {cause : Malformed} {check : Check} {unknown : Unsupported} :
    cause.refusal check ≠ .unsupported unknown := by
  unfold refusal
  split <;> exact Refusal.noConfusion

theorem Operator.isTold_of_read {value : Value} {r : Refusal} (refused : read value = .error r)
    (written : value.isWritable = true) : r.isTold = true := by
  unfold read at refused
  split at refused
  · cases refused
  · cases refused
  · rw [if_pos written] at refused
    split at refused <;> cases refused
    rfl

theorem Conjunction.isTold_of_read {value : Value} {r : Refusal} (refused : read value = .error r)
    (written : value.isWritable = true) : r.isTold = true := by
  unfold read at refused
  split at refused
  · cases refused
  · cases refused
  · rw [if_pos written] at refused
    split at refused <;> cases refused
    rfl

theorem Conjunction.read_ne_unsupported {value : Value} {unknown : Unsupported} :
    read value ≠ .error (.unsupported unknown) := by
  intro refused
  unfold read at refused
  split at refused
  · cases refused
  · cases refused
  · split at refused
    · split at refused <;> cases refused
    · cases refused

namespace Condition

variable {op : Operator} {field operator value item : Value} {items : List Value} {cause : Malformed}
  {r : Refusal}

theorem shown_of_checkScalar (unfit : checkScalar op field item = .error cause) :
    cause.shown = [field] := by
  unfold checkScalar at unfit
  split at unfit <;> cases unfit
  rfl

theorem shown_of_checkScalars (unfit : checkScalars op field items = .error cause) :
    cause.shown = [field] := by
  induction items with
  | nil => cases unfit
  | cons item rest ih =>
    unfold checkScalars at unfit
    split at unfit
    · exact ih unfit
    · next refused =>
      cases unfit
      exact shown_of_checkScalar refused

/-- A value that does not fit is refused with a message that shows it and the field, if anything. -/
theorem shown_of_shape (unfit : shape op field value = .error cause) :
    cause.shown = [field] ∨ cause.shown = [field, value] := by
  unfold shape at unfit
  split at unfit
  · split at unfit <;> cases unfit
    exact .inr rfl
  · split at unfit
    · split at unfit
      · cases unfit
        exact .inl rfl
      · cases unfit
        exact .inl rfl
      · split at unfit
        · cases unfit
        · next refused =>
          cases unfit
          exact .inl (shown_of_checkScalars refused)
    · split at unfit
      · split at unfit
        · cases unfit
          exact .inr rfl
        · split at unfit
          · cases unfit
          · next refused =>
            cases unfit
            exact .inl (shown_of_checkScalars refused)
      · split at unfit
        · next refused =>
          cases unfit
          exact .inl (shown_of_checkScalar refused)
        · split at unfit <;> cases unfit
          exact .inl rfl

/-- A value is refused for its shape, or because its texts or the message about it cannot be made. -/
theorem fit_eq_error_cases (refused : fit op field value = .error r) :
    (∃ cause, shape op field value = .error cause ∧ r = cause.refusal .condition) ∨
      r = .unwritable .condition ∧ value.isWritable = false := by
  unfold fit at refused
  split at refused
  · next long =>
    cases refused
    exact .inr ⟨rfl, by simpa using (Bool.and_eq_true_iff.mp long).2⟩
  · split at refused
    · cases refused
    · next cause unfit =>
      cases refused
      exact .inl ⟨cause, unfit, rfl⟩

theorem fit_ne_unsupported {unknown : Unsupported} : fit op field value ≠ .error (.unsupported unknown) := by
  intro refused
  rcases fit_eq_error_cases refused with ⟨cause, _, same⟩ | ⟨same, _⟩
  · exact Malformed.refusal_ne_unsupported same.symm
  · cases same

theorem isTold_of_fit (refused : fit op field value = .error r) (writtenField : field.isWritable = true)
    (writtenValue : value.isWritable = true) : r.isTold = true := by
  rcases fit_eq_error_cases refused with ⟨cause, unfit, rfl⟩ | ⟨_, long⟩
  · refine Malformed.isTold_refusal fun shown member => ?_
    rcases shown_of_shape unfit with only | both
    · rw [only] at member
      simpa [List.mem_singleton.mp member] using writtenField
    · rw [both] at member
      simp only [List.mem_cons, List.not_mem_nil, or_false] at member
      rcases member with rfl | rfl
      · exact writtenField
      · exact writtenValue
  · cases writtenValue.symm.trans long

theorem isTold_blankField (written : field.isWritable = true) {check : Check} :
    ((Malformed.blankField field).refusal check).isTold = true :=
  Malformed.isTold_refusal fun shown member => by
    simpa [List.mem_singleton.mp member] using written

theorem isTold_of_make (refused : make field operator value = .error r)
    (writtenField : field.isWritable = true) (writtenOperator : operator.isWritable = true)
    (writtenValue : value.isWritable = true) : r.isTold = true := by
  unfold make at refused
  split at refused
  · cases refused
    exact isTold_blankField writtenField
  · split at refused
    · next refusal unknown =>
      have told := Operator.isTold_of_read unknown writtenOperator
      cases refused
      cases refusal with
      | unwritable check => cases told
      | malformed | unsupported => rfl
    · split at refused
      · next unfit =>
        cases refused
        exact isTold_of_fit unfit writtenField writtenValue
      · cases refused

end Condition

end SearchFilter
