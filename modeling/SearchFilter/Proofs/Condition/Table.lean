import Mathlib.Data.List.TakeWhile
import SearchFilter.Proofs.Condition.Refusal
import SearchFilter.Proofs.Document.RoundTrip
import SearchFilter.Proofs.Operator.Spelling

/-!
The table of conditions: which values each operator takes, and what a condition keeps of the value that
it is given. Main statement: a condition is made of three parts exactly if the first is a text that is
not blank, the second names an operator and the third is a value that the operator takes; what it keeps
is what it was given, and it is made again of its own document.
-/

namespace SearchFilter

theorem Text.strip_eq_nil_iff {text : List Char} : strip text = [] ↔ ∀ c ∈ text, isBlank c = true := by
  unfold strip dropEndWhile
  rw [List.reverse_eq_nil_iff, List.dropWhile_eq_nil_iff]
  simp only [List.mem_reverse]
  induction text with
  | nil => simp
  | cons c rest ih =>
    by_cases blank : isBlank c = true
    · rw [List.dropWhile_cons_of_pos blank, ih, List.forall_mem_cons]
      simp [blank]
    · rw [List.dropWhile_cons_of_neg blank]

namespace Condition

open Document (given)

variable {op : Operator} {field operator value kept : Value} {items : List Value}
  {entries : List (Value × Value)} {c : Condition} {r : Refusal}

/-- A text with a character that is not blank. -/
def NamesField (field : Value) : Prop :=
  ∃ name, field.asText? = some name ∧ ∃ c ∈ name.toList, Text.isBlank c = false

/-- The values that an operator takes: none for the null checks, some scalars for the sets, two for a
range, a text for the patterns, else one scalar. -/
def Takes : Operator → Value → Prop
  | .isNull, value | .isNotNull, value => value = .null
  | .isIn, value | .notIn, value =>
    ∃ items, (value = .list items ∨ value = .tuple items ∨ value = .set items) ∧ items ≠ [] ∧
      ∀ item ∈ items, item.isScalar = true
  | .between, value =>
    ∃ low high, (value = .list [low, high] ∨ value = .tuple [low, high]) ∧
      low.isScalar = true ∧ high.isScalar = true
  | .startsWith, value | .endsWith, value | .contains, value => value.asText?.isSome = true
  | _, value => value.isScalar = true

/-- What is kept of a value: the items of a list in their order, those of a set each as often as it
has them, and any other value itself. -/
def Keeps : Value → Value → Prop
  | .list items, kept | .tuple items, kept => kept = .tuple items
  | .set items, kept => ∃ order : List Value, order.Perm items ∧ kept = .tuple order
  | value, kept => kept = value

theorem namesField_iff : NamesField field ↔ ∃ name, fieldName? field = some name := by
  simp only [fieldName?_eq_some_iff]
  refine exists_congr fun name => and_congr_right fun _ => ?_
  rw [← Bool.not_eq_true, List.isEmpty_iff, Text.strip_eq_nil_iff]
  simp

/-- A set operator takes the items of a list and of a tuple in their order, and those of a set in some
order. -/
theorem setItems?_cases (found : setItems? value = some items) :
    value = .list items ∨ value = .tuple items ∨
      ∃ members, value = .set members ∧ items.Perm members := by
  cases value with
  | list own =>
    cases found
    exact .inl rfl
  | tuple own =>
    cases found
    exact .inr (.inl rfl)
  | set members =>
    cases found
    exact .inr (.inr ⟨members, rfl, List.mergeSort_perm members _⟩)
  | _ => cases found

theorem pairItems?_eq_some_iff {low high : Value} : pairItems? value = some [low, high] ↔
    value = .list [low, high] ∨ value = .tuple [low, high] := by
  constructor
  · intro found
    unfold pairItems? at found
    split at found
    · cases found
      exact .inl rfl
    · cases found
      exact .inr rfl
    · cases found
  · intro given
    rcases given with rfl | rfl
    · rfl
    · rfl

private theorem takes_set_of_shape (set : op.takesSet = true)
    (made : shape op field value = .ok kept) :
    (∃ items, (value = .list items ∨ value = .tuple items ∨ value = .set items) ∧ items ≠ [] ∧
      ∀ item ∈ items, item.isScalar = true) ∧ Keeps value kept := by
  obtain ⟨items, found, nonempty, scalars, rfl⟩ := (shape_set_iff set).mp made
  rcases setItems?_cases found with rfl | rfl | ⟨members, rfl, perm⟩
  · exact ⟨⟨items, .inl rfl, nonempty, scalars⟩, rfl⟩
  · exact ⟨⟨items, .inr (.inl rfl), nonempty, scalars⟩, rfl⟩
  · have present : members ≠ [] := by
      intro empty
      rw [empty] at perm
      exact nonempty perm.eq_nil
    exact ⟨⟨members, .inr (.inr rfl), present, fun item member => scalars item (perm.symm.subset member)⟩,
      items, perm, rfl⟩

private theorem shape_of_takes_set (set : op.takesSet = true)
    (listed : value = .list items ∨ value = .tuple items ∨ value = .set items) (nonempty : items ≠ [])
    (scalars : ∀ item ∈ items, item.isScalar = true) : ∃ kept, shape op field value = .ok kept := by
  rcases listed with rfl | rfl | rfl
  · exact ⟨_, (shape_set_iff set).mpr ⟨items, rfl, nonempty, scalars, rfl⟩⟩
  · exact ⟨_, (shape_set_iff set).mpr ⟨items, rfl, nonempty, scalars, rfl⟩⟩
  · have perm : (inTextOrder items).Perm items := List.mergeSort_perm items _
    refine ⟨_, (shape_set_iff set).mpr ⟨inTextOrder items, rfl, ?_, ?_, rfl⟩⟩
    · intro empty
      rw [empty] at perm
      exact nonempty perm.symm.eq_nil
    · intro item member
      exact scalars item (perm.subset member)

private theorem keeps_of_isScalar (scalar : value.isScalar = true) : Keeps value value := by
  cases value with
  | list | tuple | set => cases scalar
  | _ => rfl

theorem takes_of_shape (made : shape op field value = .ok kept) : Takes op value ∧ Keeps value kept := by
  cases op with
  | isNull | isNotNull =>
    obtain ⟨rfl, rfl⟩ := (shape_null_iff rfl).mp made
    exact ⟨rfl, rfl⟩
  | isIn | notIn => exact takes_set_of_shape rfl made
  | between =>
    obtain ⟨low, high, found, scalarLow, scalarHigh, rfl⟩ := shape_between_iff.mp made
    have given := pairItems?_eq_some_iff.mp found
    refine ⟨⟨low, high, given, scalarLow, scalarHigh⟩, ?_⟩
    rcases given with rfl | rfl
    · rfl
    · rfl
  | startsWith | endsWith | contains =>
    obtain ⟨rfl, scalar, text⟩ := (shape_scalar_iff rfl rfl (by decide)).mp made
    exact ⟨text rfl, keeps_of_isScalar scalar⟩
  | eq | ne | gt | ge | lt | le =>
    obtain ⟨rfl, scalar, _⟩ := (shape_scalar_iff rfl rfl (by decide)).mp made
    exact ⟨scalar, keeps_of_isScalar scalar⟩

/-- The check of shapes lets a value through exactly if the operator takes it. -/
theorem shape_isOk_iff_takes : (∃ kept, shape op field value = .ok kept) ↔ Takes op value := by
  constructor
  · rintro ⟨kept, made⟩
    exact (takes_of_shape made).1
  · intro takes
    cases op with
    | isNull | isNotNull =>
      cases takes
      exact ⟨.null, (shape_null_iff rfl).mpr ⟨rfl, rfl⟩⟩
    | isIn | notIn =>
      obtain ⟨items, listed, nonempty, scalars⟩ := takes
      exact shape_of_takes_set rfl listed nonempty scalars
    | between =>
      obtain ⟨low, high, given, scalarLow, scalarHigh⟩ := takes
      have found := pairItems?_eq_some_iff.mpr given
      exact ⟨_, shape_between_iff.mpr ⟨low, high, found, scalarLow, scalarHigh, rfl⟩⟩
    | startsWith | endsWith | contains =>
      have scalar := isScalar_of_asText takes
      exact ⟨value, (shape_scalar_iff rfl rfl (by decide)).mpr ⟨rfl, scalar, fun _ => takes⟩⟩
    | eq | ne | gt | ge | lt | le =>
      have none : ∀ {P : Prop}, false = true → P := nofun
      exact ⟨value, (shape_scalar_iff rfl rfl (by decide)).mpr ⟨rfl, takes, none⟩⟩

theorem ofEntries_toDocument (accepted : c.Accepted) :
    ∃ written, c.toDocument = .map written ∧ ofEntries written = .ok c := by
  have shaped := accepted_iff_wellShaped.mp accepted
  have named : fieldName? (.text c.field) = some c.field :=
    fieldName?_eq_some_iff.mpr ⟨rfl, shaped.named⟩
  refine ⟨_, rfl, ?_⟩
  exact make_eq_ok_iff.mpr ⟨named, Operator.read_name c.operator, fit_listed shaped.fits⟩

/-- A condition is made of the parts in a mapping, of which missing ones count as none, exactly if its
field is a text that is not blank, its operator is known and takes its value; otherwise it is refused
by an error of a condition or of an operator. This takes for granted that the values can be written out.
What is made has the field and the operator that were given and keeps the value, and it is made again of
its own document. -/
theorem ofEntries_follows_table (entries : List (Value × Value)) :
    (Value.entriesWritable entries = true →
      ((∃ c, ofEntries entries = .ok c) ↔ NamesField (given "field" entries) ∧
        ∃ op, Operator.read (given "operator" entries) = .ok op ∧ Takes op (given "value" entries)) ∧
      ∀ r, ofEntries entries = .error r → r.toFailure.kind? = some .malformedCondition ∨
        r.toFailure.kind? = some .unsupportedOperator) ∧
    ∀ c, ofEntries entries = .ok c →
      (given "field" entries).asText? = some c.field ∧
      Operator.read (given "operator" entries) = .ok c.operator ∧
      Keeps (given "value" entries) c.value ∧
      ∃ written, c.toDocument = .map written ∧ ofEntries written = .ok c := by
  refine ⟨fun writable => ⟨?_, fun r refused => ?_⟩, fun c made => ?_⟩
  · rw [namesField_iff]
    constructor
    · rintro ⟨c, made⟩
      obtain ⟨named, known, fitted⟩ := make_eq_ok_iff.mp made
      exact ⟨⟨c.field, named⟩, c.operator, known, (takes_of_shape (fit_eq_ok_iff.mp fitted).2).1⟩
    · rintro ⟨⟨name, named⟩, op, known, takes⟩
      obtain ⟨kept, shaped⟩ := shape_isOk_iff_takes.mpr takes
      have fitted : fit op (given "field" entries) (given "value" entries) = .ok kept :=
        fit_eq_ok_iff.mpr ⟨fun _ => Value.isWritable_lookup? writable, shaped⟩
      exact ⟨⟨name, op, kept⟩, make_eq_ok_iff.mpr ⟨named, known, fitted⟩⟩
  · exact Refusal.kind_of_isTold (isTold_of_make refused (Value.isWritable_lookup? writable)
      (Value.isWritable_lookup? writable) (Value.isWritable_lookup? writable))
  · obtain ⟨named, known, fitted⟩ := make_eq_ok_iff.mp made
    exact ⟨(fieldName?_eq_some_iff.mp named).1, known, (takes_of_shape (fit_eq_ok_iff.mp fitted).2).2,
      ofEntries_toDocument ⟨_, _, _, made⟩⟩

/-- A set of a text and a number, under an operator with blanks around its words. -/
theorem ofEntries_follows_table_set :
    ∃ c, ofEntries [(.text "value", .set [.text "page", .int 7]), (.text "field", .text " tag"),
        (.text "operator", .text " not  In")] = .ok c ∧
      c.field = " tag" ∧ c.operator = .notIn ∧ Keeps (.set [.text "page", .int 7]) c.value ∧
      ∃ written, c.toDocument = .map written ∧ ofEntries written = .ok c := by
  obtain ⟨table, kept⟩ := ofEntries_follows_table
    [(.text "value", .set [.text "page", .int 7]), (.text "field", .text " tag"),
      (.text "operator", .text " not  In")]
  have known : Operator.read (.text " not  In") = .ok .notIn :=
    Operator.read_text_eq_ok_iff.mpr (by decide)
  have takes : Takes .notIn (.set [.text "page", .int 7]) :=
    ⟨_, .inr (.inr rfl), List.cons_ne_nil _ _, by decide⟩
  obtain ⟨c, made⟩ :=
    (table (by decide)).1.mpr ⟨⟨" tag", rfl, 't', by decide, by decide⟩, .notIn, known, takes⟩
  obtain ⟨named, read, keeps, again⟩ := kept c made
  have field : c.field = " tag" := (Option.some.inj named).symm
  have operator : c.operator = .notIn := Except.ok.inj (read.symm.trans known)
  exact ⟨c, made, field, operator, keeps, again⟩

end Condition

end SearchFilter
