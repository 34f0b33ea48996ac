import SearchFilter.Failure

/-!
Results that gather faults. Two fields of a record are both read, and the faults of both are
reported; only a failure that is no fault of a field ends the reading at once.
-/

namespace SearchFilter.Field

inductive Checked (α : Type)
  | ok (a : α)
  | faults (details : List Detail)
  | stopped (failure : Failure)
  deriving Repr

namespace Checked

variable {α β : Type}

protected def map (f : α → β) : Checked α → Checked β
  | ok a => ok (f a)
  | faults details => faults details
  | stopped failure => stopped failure

/-- Applies a function that was read to an argument read after it. -/
protected def seq (f : Checked (α → β)) (x : Unit → Checked α) : Checked β :=
  match f with
  | stopped failure => stopped failure
  | ok f => (x ()).map f
  | faults details => match x () with
    | ok _ => faults details
    | faults more => faults (details ++ more)
    | stopped failure => stopped failure

instance : Applicative Checked where
  pure := ok
  map := Checked.map
  seq := Checked.seq

/-- A single fault of the value itself. -/
def fault (f : Fault) : Checked α :=
  faults [⟨[], f⟩]

/-- The faults of a value inside another. -/
def inside (step : Step) : Checked α → Checked α
  | faults details => faults (details.map (Detail.inside step))
  | other => other

/-- A second reading of what a first one gave. -/
def andThen (x : Checked α) (next : α → Checked β) : Checked β :=
  match x with
  | ok a => next a
  | faults details => faults details
  | stopped failure => stopped failure

/-- The outcome of reading a record. -/
def toExcept (record : String) : Checked α → Except Failure α
  | ok a => .ok a
  | faults details => .error (.invalid ⟨record, details⟩)
  | stopped failure => .error failure

end Checked

end SearchFilter.Field
