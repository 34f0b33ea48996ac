import SearchFilter.Proofs.Document.Defect

/-!
What a refused document is told. Main statement: a document is read exactly if it is of the grammar,
and refused with the defect of its first defective node; where the place of a node is at fault and not
what a text says, the message names the path that leads to it.
-/

namespace SearchFilter

/-- The place that a refusal is about, if it is one of the shape of the document. -/
def Refusal.place? : Refusal → Option Path
  | .malformed (.groupNoMapping path) | .malformed (.conditionsNoList path)
  | .malformed (.fieldMissing path) | .malformed (.entryNoMapping path) => some path
  | _ => none

/-- A refusal about a place names it in its message. -/
theorem Refusal.message_of_place {r : Refusal} {path : Path} (place : r.place? = some path) :
    ∃ before after, r.toFailure.message = before ++ path.text ++ after := by
  cases r with
  | unsupported | unwritable => cases place
  | malformed cause =>
    cases cause with
    | groupNoMapping | conditionsNoList | fieldMissing | entryNoMapping =>
      cases place
      exact ⟨_, _, rfl⟩
    | _ => cases place

/-- A message that shows a value is not about the place where the value stands. -/
theorem Malformed.place?_refusal {cause : Malformed} {check : Check} (shown : cause.shown ≠ []) :
    (cause.refusal check).place? = none := by
  unfold refusal
  split
  · cases cause with
    | groupNoMapping | conditionsNoList | fieldMissing | entryNoMapping => exact absurd rfl shown
    | _ => rfl
  · rfl

theorem Operator.place?_of_read {value : Value} {r : Refusal} (refused : read value = .error r) :
    r.place? = none := by
  unfold read at refused
  split at refused
  · cases refused
  · cases refused
  · split at refused
    · split at refused <;> cases refused
      rfl
    · cases refused
      rfl

theorem Conjunction.place?_of_read {value : Value} {r : Refusal} (refused : read value = .error r) :
    r.place? = none := by
  unfold read at refused
  split at refused
  · cases refused
  · cases refused
  · split at refused
    · split at refused <;> cases refused
      rfl
    · cases refused
      rfl

theorem Condition.place?_of_fit {op : Operator} {field value : Value} {r : Refusal}
    (refused : fit op field value = .error r) : r.place? = none := by
  rcases fit_eq_error_cases refused with ⟨cause, unfit, rfl⟩ | ⟨rfl, _⟩
  · refine Malformed.place?_refusal fun none => ?_
    rcases shown_of_shape unfit with one | two
    · cases one.symm.trans none
    · cases two.symm.trans none
  · rfl

namespace Document.Node

variable {n : Node} {r : Refusal} {path : Path}

theorem Defect.place (defect : n.Defect r) (place : r.place? = some path) : path = n.path := by
  cases defect with
  | noMapping | noList | noEntry | noField =>
    cases place
    rfl
  | conjunction listed unknown => cases (Conjunction.place?_of_read unknown).symm.trans place
  | operator found unknown => cases (Operator.place?_of_read unknown).symm.trans place
  | @field _ _ field _ found known blank =>
    have shown : (Malformed.blankField field).shown ≠ [] := List.cons_ne_nil _ _
    cases (Malformed.place?_refusal shown).symm.trans place
  | value found known named unfit => cases (Condition.place?_of_fit unfit).symm.trans place

end Document.Node

open Document in
/-- A document is read exactly if it is of the grammar. Otherwise the first node with a defect, in the
order of the document, decides how it is refused: as malformed or for an unknown operator, if all values
in the document can be written out, and if the shape of the document is at fault then with the path to
that node in the message. -/
theorem Group.ofDocument_reports (document : Value) :
    ((∃ g, ofDocument document = .ok g) ↔ GroupForm document) ∧
    (∀ r, ofDocument document = .error r ↔ ∃ n, Node.First (.group [] document) n r) ∧
    ∀ n r, Node.First (.group [] document) n r →
      (document.isWritable = true → r.toFailure.kind? = some .malformedCondition ∨
        r.toFailure.kind? = some .unsupportedOperator) ∧
      ∀ path, r.place? = some path → path = n.path ∧
        ∃ before after, r.toFailure.message = before ++ path.text ++ after := by
  refine ⟨ofDocument_isOk, fun r => ?_, fun n r first => ⟨fun written => ?_, fun path place => ?_⟩⟩
  · have reports : (Node.group [] document).Reports (ofDocument document) := Node.reports_ofDocument
    cases read : ofDocument document with
    | ok g =>
      rw [read] at reports
      constructor
      · rintro ⟨⟩
      · rintro ⟨n, first⟩
        exact absurd first.defect (reports n first.within r)
    | error cause =>
      rw [read] at reports
      obtain ⟨m, reported⟩ := reports
      constructor
      · rintro ⟨⟩
        exact ⟨m, reported⟩
      · rintro ⟨n, first⟩
        rw [first.unique reported]
  · exact Refusal.kind_of_isTold (first.defect.isTold (first.within.isWritable written))
  · exact ⟨first.defect.place place, Refusal.message_of_place place⟩

open Document in
/-- Of two defects in a group inside another, a condition without a field and an entry that is no mapping,
the first is reported with its path. -/
theorem Group.ofDocument_reports_missing_field :
    ∃ n, Node.First (.group [] (.map [(.text "conditions", .list [
        .map [(.text "field", .text "a"), (.text "value", .int 1)],
        .map [(.text "conjunction", .text "or"), (.text "conditions", .list [
          .map [(.text "value", .int 2)], .text "b"])]])])) n (.malformed (.fieldMissing [1, 0])) ∧
      n.path = [1, 0] := by
  have reports := Group.ofDocument_reports (.map [(.text "conditions", .list [
    .map [(.text "field", .text "a"), (.text "value", .int 1)],
    .map [(.text "conjunction", .text "or"), (.text "conditions", .list [
      .map [(.text "value", .int 2)], .text "b"])]])])
  obtain ⟨n, first⟩ := (reports.2.1 (.malformed (.fieldMissing [1, 0]))).mp rfl
  exact ⟨n, first, ((reports.2.2 n _ first).2 [1, 0] rfl).1.symm⟩

end SearchFilter
