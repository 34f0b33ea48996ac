import SearchFilter.Condition

namespace SearchFilter

/-- A member of a filter: a condition, or a group that joins its members by a conjunction. -/
inductive Tree
  | leaf (c : Condition)
  | group (conjunction : Conjunction) (members : List Tree)
  deriving Repr, Inhabited

/-- A group that is not itself a member: the root of a filter. -/
structure Group where
  conjunction : Conjunction
  members : List Tree
  deriving Repr, Inhabited

/-- The group as a member. -/
def Group.toTree (g : Group) : Tree :=
  .group g.conjunction g.members

end SearchFilter
