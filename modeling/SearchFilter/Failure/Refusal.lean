import SearchFilter.Field.Checked

/-!
Why a condition or a group is refused. Saying so may show a value, and if that cannot be written out
then this is what goes wrong instead: it is a fault of the record that is being checked, and an error of
its own outside of any record.
-/

namespace SearchFilter

namespace Record

/-- The name of the record of a condition. -/
def conditionRecord : String := "Condition"

/-- The name of the record of a group. -/
def groupRecord : String := "ConditionGroup"

end Record

/-- What is being checked where a value cannot be written out. -/
inductive Check
  | operator
  | condition
  | conjunction
  deriving DecidableEq, Repr

/-- Why a condition or a group is refused: its shape is wrong, its operator is unknown, or a value that
would be shown for it is too long to be written out. -/
inductive Refusal
  | malformed (cause : Malformed)
  | unsupported (cause : Unsupported)
  | unwritable (check : Check)
  deriving Repr

/-- The fault of a field over a value that is too long to be written out. -/
def Field.Fault.unwritable : Field.Fault :=
  .rejected ValueFault.tooLongToWrite.message

namespace Malformed

/-- The refusal for a cause that shows values. -/
def refusal (check : Check) (cause : Malformed) : Refusal :=
  if cause.shown.all Value.isWritable then .malformed cause else .unwritable check

end Malformed

namespace Refusal

/-- A refusal that comes up in another check. -/
def within (check : Check) : Refusal → Refusal
  | unwritable _ => unwritable check
  | refusal => refusal

/-- The error outside of any record. -/
def bare : Refusal → Failure
  | malformed cause => .malformed cause
  | unsupported cause => .unsupported cause
  | unwritable _ => .badValue .tooLongToWrite

/-- The error that ends a check. -/
def toFailure : Refusal → Failure
  | unwritable .condition => .invalid ⟨Record.conditionRecord, [⟨[], .unwritable⟩]⟩
  | unwritable .conjunction =>
    .invalid ⟨Record.groupRecord, [⟨[.name "conjunction"], .unwritable⟩]⟩
  | refusal => refusal.bare

/-- What a refusal of its conjunction makes of a group: a fault beside those of its other fields, or an
error that ends the reading. -/
def ofConjunction {α : Type} : Refusal → Field.Checked α
  | unwritable _ => .faults [⟨[.name "conjunction"], .unwritable⟩]
  | refusal => .stopped refusal.bare

end Refusal

end SearchFilter
