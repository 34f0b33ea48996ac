/-!
Sorting by an order that may refuse to compare. The list is sorted by insertion: its first run, made
ascending, is extended by one element after another, each put behind the elements that it is not
less than, as halving the run finds them. Equal elements keep their order.
-/

namespace SearchFilter.Sorting

variable {α : Type}

/-- The longest beginning in which no element is less than the one before it, and the rest. -/
def ascendingRun (less? : α → α → Option Bool) : α → List α → Option (List α × List α)
  | x, [] => some ([x], [])
  | x, y :: rest => do
    if ← less? y x then some ([x], y :: rest)
    else
      let (run, rest) ← ascendingRun less? y rest
      some (x :: run, rest)

/-- The longest beginning in which each element is less than the one before it, and the rest. -/
def descendingRun (less? : α → α → Option Bool) : α → List α → Option (List α × List α)
  | x, [] => some ([x], [])
  | x, y :: rest => do
    if ← less? y x then
      let (run, rest) ← descendingRun less? y rest
      some (x :: run, rest)
    else some ([x], y :: rest)

/-- The first run in ascending order, and the rest. -/
def firstRun (less? : α → α → Option Bool) : List α → Option (List α × List α)
  | [] => some ([], [])
  | [x] => some ([x], [])
  | x :: y :: rest => do
    if ← less? y x then
      let (run, rest) ← descendingRun less? x (y :: rest)
      some (run.reverse, rest)
    else ascendingRun less? x (y :: rest)

/-- Where an element belongs in a run between two places: behind all that it is not less than. -/
def place (less? : α → α → Option Bool) (x : α) (run : Array α) (low high : Nat) : Option Nat :=
  if _h : low < high then
    let middle := low + (high - low) / 2
    match run[middle]? with
    | none => some low
    | some y => match less? x y with
      | none => none
      | some true => place less? x run low middle
      | some false => place less? x run (middle + 1) high
  else some low
termination_by high - low

/-- Puts an element into an ascending run. -/
def insert (less? : α → α → Option Bool) (run : List α) (x : α) : Option (List α) :=
  (place less? x run.toArray 0 run.length).map fun n => run.take n ++ x :: run.drop n

/-- The list in ascending order; `none` when a comparison that is needed is refused. -/
def sort? (less? : α → α → Option Bool) (items : List α) : Option (List α) := do
  let (run, rest) ← firstRun less? items
  rest.foldlM (insert less?) run

end SearchFilter.Sorting
