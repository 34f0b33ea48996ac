import SearchFilter.Proofs.Lowering.Writable
import SearchFilter.Proofs.Request.Assembly

namespace SearchFilter

/-- The parts of a window can be written out. -/
structure Window.Writable (window : Option Window) : Prop where
  start : ∀ n ∈ window.bind (·.start), Numeral.isWritable n = true
  length : ∀ n ∈ window.bind (·.length), Numeral.isWritable n = true

@[simp] theorem HitOrder.isWritable_toDocument (order : HitOrder) : order.toDocument.isWritable = true := rfl

namespace Request

variable {name : String} {value : Option Value} {n : Option Int}

theorem isWritable_optional : (∀ field ∈ optional name value, field.2.isWritable = true) ↔
    ∀ v ∈ value, v.isWritable = true := by
  cases value <;> simp [optional]

theorem isWritable_toDocument {r : Request} : r.toDocument.isWritable = true ↔
    r.filter.isWritable = true ∧ (∀ v ∈ r.sort, v.isWritable = true) ∧
      (∀ n ∈ r.start, Numeral.isWritable n = true) ∧ ∀ n ∈ r.size, Numeral.isWritable n = true := by
  have flag : (∀ v ∈ r.includeSource.map Value.bool, v.isWritable = true) ↔ True := by
    cases r.includeSource <;> simp [Value.isWritable]
  have number (n : Option Int) : (∀ v ∈ n.map Value.int, v.isWritable = true) ↔
      ∀ k ∈ n, Numeral.isWritable k = true := by
    cases n <;> simp [Value.isWritable]
  have index : (Value.text r.index).isWritable = true := rfl
  simp only [toDocument, body, bodyEntries, Value.isWritable_ofFields, List.forall_mem_append,
    List.forall_mem_cons, isWritable_optional, index, flag, number, List.not_mem_nil, false_imp_iff,
    implies_true, and_true, true_and, and_assoc]

end Request

namespace Compiler

variable {size n : Int} {warnings count : Bool} {index : Value} {g : Group} {orders : List HitOrder}
  {window : Option Window} {start length : Option Int}

theorem isWritable_positive? : (∀ n ∈ positive? start, Numeral.isWritable n = true) ↔
    ∀ n ∈ start, Numeral.isWritable n = true := by
  have zero : Numeral.isWritable 0 = true := Numeral.isWritable_of_lt (k := 1) (by decide) (by decide)
  cases start with
  | none => simp [positive?]
  | some n =>
    by_cases none : n = 0
    · simp [positive?, Option.filter, none, zero]
    · simp [positive?, Option.filter, none]

/-- The rest of a window that can be written out can be as well. -/
theorem isWritable_of_asks (short : Numeral.isWritable size = true) (whole : ∀ k ∈ start, 0 ≤ k)
    (asks : Request.Asks size start length n) :
    Numeral.isWritable n = true ↔ ∀ k ∈ length, Numeral.isWritable k = true := by
  cases asks with
  | length => simp
  | rest positive fills =>
    have early : 0 ≤ start.getD 0 := by
      cases start with
      | none => exact Int.le_refl 0
      | some k => exact whole k rfl
    have small : n.natAbs ≤ size.natAbs := by omega
    have written : Numeral.isWritable n = true :=
      Numeral.isWritable_iff.mpr (Nat.lt_of_le_of_lt small (Numeral.isWritable_iff.mp short))
    simp [written]

theorem writable_window_iff (short : Numeral.isWritable size = true) (proper : ∀ w ∈ window, w.Proper)
    (asks : Request.Asks size (window.bind (·.start)) (window.bind (·.length)) n) :
    Window.Writable window ↔ (∀ k ∈ positive? (window.bind (·.start)), Numeral.isWritable k = true) ∧
      Numeral.isWritable n = true := by
  rw [isWritable_positive?, isWritable_of_asks short (Window.start_nonneg proper) asks]
  exact ⟨fun each => ⟨each.start, each.length⟩, fun ⟨start, length⟩ => ⟨start, length⟩⟩

/-- A request can be written out exactly if the values in its filter can, and for a search the parts of
its window. -/
theorem isWritable_request {r : Request} (short : Numeral.isWritable size = true) (positive : 1 ≤ size)
    (accepted : ∀ c ∈ g.conditions, c.Accepted) (proper : ∀ w ∈ window, w.Proper)
    (made : (request ⟨.int size, warnings⟩ index g orders window count).result = .ok r) :
    r.toDocument.isWritable = true ↔
      (∀ c ∈ g.conditions, c.value.isWritable = true) ∧ (count = true ∨ Window.Writable window) := by
  cases lowered : (g.lower warnings).result with
  | error failure =>
    rw [request, Trace.result_bind, lowered] at made
    cases made
  | ok q =>
    have filter := Group.isWritable_lower accepted lowered
    rw [result_request lowered] at made
    cases count with
    | true =>
      obtain ⟨name, _, rfl⟩ :=
        Field.Checked.map_eq_ok_iff.mp (Field.Checked.toExcept_eq_ok_iff.mp made)
      simp [Request.isWritable_toDocument, filter]
    | false =>
      rw [if_neg Bool.false_ne_true] at made
      have inside : ¬ Window.Outside size window := by
        intro outside
        obtain ⟨_, _, failed⟩ := searchRequest_outside (c := ⟨.int size, warnings⟩) index q.toDocument
          orders rfl positive outside
        cases failed.symm.trans made
      obtain ⟨n, asks, sized⟩ := sizeOf_asks (c := ⟨.int size, warnings⟩) rfl positive proper inside
      rw [searchRequest_of_sizeOf sized] at made
      obtain ⟨name, _, rfl⟩ :=
        Field.Checked.map_eq_ok_iff.mp (Field.Checked.toExcept_eq_ok_iff.mp made)
      rw [Request.isWritable_toDocument, filter, writable_window_iff short proper asks]
      simp

end Compiler

end SearchFilter
