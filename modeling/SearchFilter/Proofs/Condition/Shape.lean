import SearchFilter.Condition
import SearchFilter.Proofs.Result

namespace SearchFilter

namespace Condition

variable {op : Operator} {field operator value kept : Value} {items : List Value} {c : Condition}

/-- A condition that the check lets through, made of some three parts. -/
def Accepted (c : Condition) : Prop :=
  ∃ field operator value, make field operator value = .ok c

/-- The shape that an operator's value has in a condition: nothing for the null checks, a tuple of
scalars for the sets, two scalars for a range, a text for the patterns, else one scalar. -/
def Fits : Operator → Value → Prop
  | .isNull, value | .isNotNull, value => value = .null
  | .isIn, value | .notIn, value =>
    ∃ items, value = .tuple items ∧ items ≠ [] ∧ ∀ item ∈ items, item.isScalar = true
  | .between, value =>
    ∃ low high, value = .tuple [low, high] ∧ low.isScalar = true ∧ high.isScalar = true
  | .startsWith, value | .endsWith, value | .contains, value => value.asText?.isSome = true
  | _, value => value.isScalar = true

/-- A condition with a field that is named and a value of its operator's shape. -/
structure WellShaped (c : Condition) : Prop where
  named : (Text.strip c.field.toList).isEmpty = false
  fits : Fits c.operator c.value

theorem checkScalars_isOk_iff (op : Operator) (field : Value) :
    checkScalars op field items = .ok () ↔ ∀ item ∈ items, item.isScalar = true := by
  induction items with
  | nil => simp [checkScalars]
  | cons item rest ih =>
    cases scalar : item.isScalar <;> simp [checkScalars, checkScalar, scalar, ih]

private theorem keptItems_iff (op : Operator) (field : Value) (items : List Value)
    {result : Except Malformed Value}
    (accepted : checkScalars op field items = .ok () → result = .ok (.tuple items))
    (refused : ∀ cause, checkScalars op field items = .error cause → result = .error cause) :
    result = .ok kept ↔ (∀ item ∈ items, item.isScalar = true) ∧ kept = .tuple items := by
  rw [← checkScalars_isOk_iff op field]
  cases checked : checkScalars op field items with
  | ok _ => simp [accepted checked, eq_comm]
  | error cause => simp [refused cause checked]

theorem isScalar_of_asText (text : value.asText?.isSome = true) : value.isScalar = true := by
  cases value <;> simp_all [Value.asText?, Value.isScalar]

theorem shape_null_iff (null : op.takesNothing = true) :
    shape op field value = .ok kept ↔ value = .null ∧ kept = .null := by
  rw [shape.eq_def, if_pos null]
  cases value <;> simp [eq_comm]

theorem shape_set_iff (set : op.takesSet = true) :
    shape op field value = .ok kept ↔ ∃ items, setItems? value = some items ∧ items ≠ [] ∧
      (∀ item ∈ items, item.isScalar = true) ∧ kept = .tuple items := by
  have null : ¬ op.takesNothing = true := by
    cases op <;> simp_all [Operator.takesSet, Operator.takesNothing]
  rw [shape.eq_def, if_neg null, if_pos set]
  cases setItems? value with
  | none => simp
  | some items =>
    cases items with
    | nil => simp
    | cons item rest =>
      rw [keptItems_iff op field (item :: rest) (fun checked => by simp only [checked])
        (fun cause checked => by simp only [checked])]
      simp

theorem shape_between_iff :
    shape .between field value = .ok kept ↔ ∃ low high, pairItems? value = some [low, high] ∧
      low.isScalar = true ∧ high.isScalar = true ∧ kept = .tuple [low, high] := by
  rw [shape.eq_def, if_neg (by decide), if_neg (by decide), if_pos rfl]
  cases given : pairItems? value with
  | none => simp
  | some items =>
    obtain ⟨low, high, rfl⟩ : ∃ low high, items = [low, high] := by
      unfold pairItems? at given
      split at given <;> cases given
      · exact ⟨_, _, rfl⟩
      · exact ⟨_, _, rfl⟩
    rw [keptItems_iff .between field [low, high] (fun checked => by simp only [checked])
      (fun cause checked => by simp only [checked])]
    simp [and_assoc]

theorem shape_scalar_iff (null : op.takesNothing = false) (set : op.takesSet = false)
    (single : op ≠ .between) :
    shape op field value = .ok kept ↔ kept = value ∧ value.isScalar = true ∧
      (op.takesText = true → value.asText?.isSome = true) := by
  cases scalar : value.isScalar with
  | false => simp [shape, null, set, single, checkScalar, scalar]
  | true =>
    cases text : op.takesText <;> cases content : value.asText? <;>
      simp [shape, null, set, single, checkScalar, scalar, text, content, eq_comm]

theorem fits_of_shape (made : shape op field value = .ok kept) : Fits op kept := by
  cases op with
  | isNull | isNotNull => exact ((shape_null_iff rfl).mp made).2
  | isIn | notIn =>
    obtain ⟨items, _, nonempty, scalars, rfl⟩ := (shape_set_iff rfl).mp made
    exact ⟨items, rfl, nonempty, scalars⟩
  | between =>
    obtain ⟨low, high, _, scalarLow, scalarHigh, rfl⟩ := shape_between_iff.mp made
    exact ⟨low, high, rfl, scalarLow, scalarHigh⟩
  | startsWith | endsWith | contains =>
    obtain ⟨rfl, _, text⟩ := (shape_scalar_iff rfl rfl (by decide)).mp made
    exact text rfl
  | eq | ne | gt | ge | lt | le =>
    obtain ⟨rfl, scalar, _⟩ := (shape_scalar_iff rfl rfl (by decide)).mp made
    exact scalar

private theorem listed_of_isScalar (scalar : value.isScalar = true) : listed value = value := by
  cases value <;> simp_all [Value.isScalar, listed]

/-- A value of the operator's shape is kept as it is, also with its items in a list. -/
theorem shape_listed (fits : Fits op kept) : shape op field (listed kept) = .ok kept := by
  cases op with
  | isNull | isNotNull =>
    cases fits
    exact (shape_null_iff rfl).mpr ⟨rfl, rfl⟩
  | isIn | notIn =>
    obtain ⟨items, rfl, nonempty, scalars⟩ := fits
    exact (shape_set_iff rfl).mpr ⟨items, rfl, nonempty, scalars, rfl⟩
  | between =>
    obtain ⟨low, high, rfl, scalarLow, scalarHigh⟩ := fits
    exact shape_between_iff.mpr ⟨low, high, rfl, scalarLow, scalarHigh, rfl⟩
  | startsWith | endsWith | contains =>
    have scalar := isScalar_of_asText fits
    rw [listed_of_isScalar scalar]
    exact (shape_scalar_iff rfl rfl (by decide)).mpr ⟨rfl, scalar, fun _ => fits⟩
  | eq | ne | gt | ge | lt | le =>
    rw [listed_of_isScalar fits]
    exact (shape_scalar_iff rfl rfl (by decide)).mpr ⟨rfl, fits, fun text => absurd text (by decide)⟩

/-- A value is kept if it fits, and if its texts can be made where it is ordered by them. -/
theorem fit_eq_ok_iff : fit op field value = .ok kept ↔
    (needsTexts op value = true → value.isWritable = true) ∧ shape op field value = .ok kept := by
  unfold fit
  cases needsTexts op value <;> cases value.isWritable <;> cases shape op field value <;> simp

/-- What a condition keeps is never ordered by its texts again. -/
theorem fit_listed (fits : Fits op kept) : fit op field (listed kept) = .ok kept := by
  refine fit_eq_ok_iff.mpr ⟨fun needs => ?_, shape_listed fits⟩
  cases kept with
  | set items => cases op <;> simp_all [Fits, Value.isScalar, Value.asText?]
  | _ => cases needs

theorem fieldName?_eq_some_iff {name : String} :
    fieldName? field = some name ↔
      field.asText? = some name ∧ (Text.strip name.toList).isEmpty = false := by
  unfold fieldName?
  cases field.asText? with
  | none => simp
  | some text =>
    cases blank : (Text.strip text.toList).isEmpty with
    | true =>
      simp only [blank, if_true, Option.some.injEq, reduceCtorEq, false_iff, not_and]
      rintro rfl
      simp [blank]
    | false =>
      simp only [blank, Bool.false_eq_true, if_false, Option.some.injEq, iff_self_and]
      rintro rfl
      exact blank

theorem make_eq_ok_iff :
    make field operator value = .ok c ↔ fieldName? field = some c.field ∧
      Operator.read operator = .ok c.operator ∧ fit c.operator field value = .ok c.value := by
  constructor
  · intro made
    unfold make at made
    split at made
    · cases made
    · next name named =>
      split at made
      · cases made
      · next op read =>
        split at made
        · cases made
        · next kept fitted =>
          cases made
          exact ⟨named, read, fitted⟩
  · rintro ⟨named, read, fitted⟩
    simp only [make, named, read, fitted]

theorem compose_eq_ok_iff : compose field operator value = .ok c ↔
    Operator.read operator = .ok c.operator ∧ make field (.operator c.operator) value = .ok c := by
  unfold compose
  cases read : Operator.read operator with
  | error cause => simp
  | ok op =>
    simp only [Except.ok.injEq]
    constructor
    · intro made
      obtain ⟨_, same, _⟩ := make_eq_ok_iff.mp made
      cases same
      exact ⟨rfl, made⟩
    · rintro ⟨rfl, made⟩
      exact made

/-- A condition is refused for its operator, else for its field, else for its value. -/
theorem compose_eq_error_iff {r : Refusal} : compose field operator value = .error r ↔
    Operator.read operator = .error r ∨
      ∃ op, Operator.read operator = .ok op ∧
        ((fieldName? field = none ∧ r = (Malformed.blankField field).refusal .condition) ∨
          ∃ name, fieldName? field = some name ∧ fit op field value = .error r) := by
  have known : ∀ op, Operator.read (.operator op) = .ok op := fun op => rfl
  unfold compose
  cases Operator.read operator with
  | error refusal => simp
  | ok op =>
    simp only [make, known]
    cases fieldName? field with
    | none => simp [eq_comm]
    | some name => cases fitted : fit op field value <;> simp [fitted]

theorem accepted_of_compose (made : compose field operator value = .ok c) : c.Accepted :=
  ⟨field, .operator c.operator, value, (compose_eq_ok_iff.mp made).2⟩

/-- Accepted are exactly the conditions with a named field and a value of the operator's shape. -/
theorem accepted_iff_wellShaped : c.Accepted ↔ c.WellShaped := by
  constructor
  · rintro ⟨field, operator, value, made⟩
    obtain ⟨named, _, fitted⟩ := make_eq_ok_iff.mp made
    exact ⟨(fieldName?_eq_some_iff.mp named).2, fits_of_shape (fit_eq_ok_iff.mp fitted).2⟩
  · intro shaped
    have named : fieldName? (.text c.field) = some c.field :=
      fieldName?_eq_some_iff.mpr ⟨rfl, shaped.named⟩
    exact ⟨.text c.field, .operator c.operator, listed c.value,
      make_eq_ok_iff.mpr ⟨named, rfl, fit_listed shaped.fits⟩⟩

end Condition

end SearchFilter
