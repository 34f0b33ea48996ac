import Mathlib.Data.String.Basic
import SearchFilter.Lowering
import SearchFilter.Proofs.Condition.Shape
import SearchFilter.Proofs.Operator.Spelling
import SearchFilter.Proofs.Sorting
import SearchFilter.Proofs.Value.Writable

/-!
Conditions made of sets. A set has its members in no order of its own, so they are put into the order of
their texts; members that share a text stay in the order in which the set gives them. Main statement: a set
makes one condition, whatever the order in which it gives its members, exactly if no two of them share a
text.
-/

namespace SearchFilter

namespace Condition

variable {op : Operator} {field operator : Value} {name : String} {items order : List Value}

/-- Each member of a set is known by its text. -/
def TextsTellApart (items : List Value) : Prop :=
  ∀ v ∈ items, ∀ w ∈ items, v.display = w.display → v = w

theorem inTextOrder_arranges (items : List Value) :
    Sorting.Arranges Value.display items (inTextOrder items) :=
  Sorting.arranges_mergeSort Value.display items

/-- The order of texts forgets the order in which the members are given exactly if their texts tell them
apart. -/
theorem inTextOrder_of_perm_iff : (∀ order : List Value, order.Perm items →
    inTextOrder order = inTextOrder items) ↔ TextsTellApart items :=
  Sorting.sort_of_perm_iff inTextOrder_arranges

theorem fit_set_iff (set : op.takesSet = true) (nonempty : items ≠ [])
    (scalars : ∀ item ∈ items, item.isScalar = true) (perm : order.Perm items) (kept : Value) :
    fit op field (.set order) = .ok kept ↔
      Value.allWritable items = true ∧ kept = .tuple (inTextOrder order) := by
  have whole : (inTextOrder order).Perm items := (inTextOrder_arranges order).perm.trans perm
  have some : inTextOrder order ≠ [] := by
    intro empty
    rw [empty] at whole
    exact nonempty whole.nil_eq.symm
  have each : ∀ item ∈ inTextOrder order, item.isScalar = true :=
    fun item present => scalars item (whole.subset present)
  have shaped : shape op field (.set order) = .ok kept ↔ kept = .tuple (inTextOrder order) := by
    rw [shape_set_iff set]
    constructor
    · rintro ⟨taken, given, _, _, rfl⟩
      cases given
      rfl
    · rintro rfl
      exact ⟨_, rfl, some, each, rfl⟩
  have texts : needsTexts op (.set order) = true := set
  have written : (Value.set order).isWritable = Value.allWritable items := by
    rw [Value.isWritable, Value.allWritable_eq_all, Value.allWritable_eq_all, perm.all_eq]
  simp [fit_eq_ok_iff, texts, written, shaped]

/-- A set of scalars makes a condition with its members in the order of their texts, if all of them have
one. -/
theorem make_set_iff (named : fieldName? field = some name) (read : Operator.read operator = .ok op)
    (set : op.takesSet = true) (nonempty : items ≠ []) (scalars : ∀ item ∈ items, item.isScalar = true)
    (perm : order.Perm items) (c : Condition) :
    make field operator (.set order) = .ok c ↔
      Value.allWritable items = true ∧ c = ⟨name, op, .tuple (inTextOrder order)⟩ := by
  obtain ⟨field', op', kept⟩ := c
  rw [make_eq_ok_iff, named, read]
  constructor
  · rintro ⟨sameField, sameOp, fitted⟩
    cases sameField
    cases sameOp
    obtain ⟨written, rfl⟩ := (fit_set_iff set nonempty scalars perm kept).mp fitted
    exact ⟨written, rfl⟩
  · rintro ⟨written, same⟩
    cases same
    exact ⟨rfl, rfl, (fit_set_iff set nonempty scalars perm _).mpr ⟨written, rfl⟩⟩

theorem make_terms (set : op.takesSet = true) (name : String) (kept : List Value) :
    Leaf.make op (.text name) (.tuple kept) = .ok (.terms (.text name) kept) := by
  cases op with
  | isIn | notIn => rfl
  | _ => cases set

/-- A set of scalars makes one condition, whatever the order in which it gives its members, exactly if all
of them can be written out and no two of them share a text, and exactly then it is lowered to one test; the
condition has every member of the set. -/
theorem set_makes_one_iff (named : fieldName? field = some name)
    (read : Operator.read operator = .ok op) (set : op.takesSet = true) (nonempty : items ≠ [])
    (scalars : ∀ item ∈ items, item.isScalar = true) :
    ((∃ kept, kept.Perm items ∧ ∀ order : List Value, order.Perm items →
        make field operator (.set order) = .ok ⟨name, op, .tuple kept⟩) ↔
      Value.allWritable items = true ∧ TextsTellApart items) ∧
    ((∃ test, ∀ order : List Value, order.Perm items → ∃ c, make field operator (.set order) = .ok c ∧
        Leaf.make c.operator (.text c.field) c.value = .ok test) ↔
      Value.allWritable items = true ∧ TextsTellApart items) := by
  have makes {order : List Value} (perm : order.Perm items) (c : Condition) :=
    make_set_iff named read set nonempty scalars perm c
  rw [← inTextOrder_of_perm_iff]
  constructor
  · constructor
    · rintro ⟨kept, -, one⟩
      have keeps {order : List Value} (perm : order.Perm items) : inTextOrder order = kept := by
        have same := ((makes perm _).mp (one order perm)).2
        simpa [eq_comm] using same
      refine ⟨((makes (.refl items) _).mp (one items (.refl items))).1, ?_⟩
      intro order perm
      rw [keeps perm, keeps (.refl items)]
    · rintro ⟨written, same⟩
      refine ⟨inTextOrder items, (inTextOrder_arranges items).perm, ?_⟩
      intro order perm
      rw [makes perm, same order perm]
      exact ⟨written, rfl⟩
  · constructor
    · rintro ⟨test, one⟩
      have tests {order : List Value} (perm : order.Perm items) :
          Value.allWritable items = true ∧
            .terms (.text name) (inTextOrder order) = test := by
        obtain ⟨c, made, tested⟩ := one order perm
        obtain ⟨written, rfl⟩ := (makes perm c).mp made
        rw [make_terms set] at tested
        exact ⟨written, Except.ok.inj tested⟩
      refine ⟨(tests (.refl items)).1, ?_⟩
      intro order perm
      exact (Leaf.terms.inj ((tests perm).2.trans (tests (.refl items)).2.symm)).2
    · rintro ⟨written, same⟩
      refine ⟨.terms (.text name) (inTextOrder items), ?_⟩
      intro order perm
      refine ⟨_, (makes perm _).mpr ⟨written, rfl⟩, ?_⟩
      rw [make_terms set, same order perm]

/-- Texts and a number, under an operator that excludes its values. -/
theorem set_makes_one_mixed :
    ((∃ kept, kept.Perm [.text "page", .int 7, .text "article"] ∧ ∀ order : List Value,
        order.Perm [.text "page", .int 7, .text "article"] →
        make (.text "type") (.text "not in") (.set order) = .ok ⟨"type", .notIn, .tuple kept⟩) ↔
      Value.allWritable [.text "page", .int 7, .text "article"] = true ∧
        TextsTellApart [.text "page", .int 7, .text "article"]) ∧
    ((∃ test, ∀ order : List Value, order.Perm [.text "page", .int 7, .text "article"] →
        ∃ c, make (.text "type") (.text "not in") (.set order) = .ok c ∧
          Leaf.make c.operator (.text c.field) c.value = .ok test) ↔
      Value.allWritable [.text "page", .int 7, .text "article"] = true ∧
        TextsTellApart [.text "page", .int 7, .text "article"]) := by
  have read : Operator.read (.text "not in") = .ok .notIn := Operator.read_text_eq_ok_iff.mpr (by decide)
  exact set_makes_one_iff (by decide) read rfl (by simp) (by simp [Value.isScalar])

/-- Two numbers of different kinds that are not equal and that are both written 0.02. -/
def writtenAlike : List Value :=
  [.float (.finite false 5764607523034235 (-58)), .decimal (.finite false 2 (-2))]

/-- It is not so that a set always makes one condition. -/
theorem set_keeps_order_of_alike :
    ¬ ∀ items order : List Value, items.Pairwise (fun v w => Value.sameKey v w = false) →
      items ≠ [] → (∀ item ∈ items, item.isScalar = true) → order.Perm items →
      make (.text "size") (.operator .isIn) (.set order) =
        make (.text "size") (.operator .isIn) (.set items) := by
  intro always
  have distinct : writtenAlike.Pairwise fun v w => Value.sameKey v w = false := by decide +kernel
  have nonempty : writtenAlike ≠ [] := List.cons_ne_nil _ _
  have scalars : ∀ item ∈ writtenAlike, item.isScalar = true := by decide
  have named : fieldName? (.text "size") = some "size" := by decide
  have read : Operator.read (.operator .isIn) = .ok .isIn := rfl
  have written : Value.allWritable writtenAlike = true := by decide
  have makes {order : List Value} (perm : order.Perm writtenAlike) :=
    (make_set_iff named read rfl nonempty scalars perm _).mpr ⟨written, rfl⟩
  have one : ∀ order : List Value, order.Perm writtenAlike →
      inTextOrder order = inTextOrder writtenAlike := by
    intro order perm
    have same := always writtenAlike order distinct nonempty scalars perm
    rw [makes perm, makes (.refl _)] at same
    simpa using same
  have equal : writtenAlike[0] = writtenAlike[1] :=
    inTextOrder_of_perm_iff.mp one _ (List.getElem_mem _) _ (List.getElem_mem _) (by decide +kernel)
  cases equal

end Condition

end SearchFilter
