import SearchFilter.Tree

namespace SearchFilter

/-- A member of a vocabulary, or something foreign in its place. -/
inductive Slot (α : Type)
  | known (a : α)
  | foreign (v : Value)
  deriving Repr, Inhabited

inductive Draft
  | leaf (field : Value) (operator : Slot Operator) (value : Value)
  | group (conjunction : Slot Conjunction) (members : List Draft)
  deriving Repr, Inhabited

mutual

/-- A tree as a draft. -/
def Tree.toDraft : Tree → Draft
  | .leaf c => .leaf (.text c.field) (.known c.operator) c.value
  | .group conjunction members => .group (.known conjunction) (Tree.toDrafts members)
termination_by structural t => t

def Tree.toDrafts : List Tree → List Draft
  | [] => []
  | t :: rest => t.toDraft :: Tree.toDrafts rest
termination_by structural ts => ts

end

end SearchFilter
