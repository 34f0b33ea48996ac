import SearchFilter.Tree.Document
import SearchFilter.Tree.Draft

namespace SearchFilter

namespace Tree

/-- What holds of conditions, and of groups if it holds of their members, holds of all trees. -/
@[elab_as_elim, induction_eliminator]
theorem induct {motive : Tree → Prop} (leaf : ∀ c, motive (.leaf c))
    (group : ∀ conjunction members, (∀ t ∈ members, motive t) →
      motive (.group conjunction members)) : ∀ t, motive t
  | .leaf c => leaf c
  | .group conjunction members =>
    group conjunction members fun t _ => induct leaf group t

mutual

/-- The conditions at the leaves of a tree, from left to right. -/
def conditions : Tree → List Condition
  | .leaf c => [c]
  | .group _ members => conditionsOf members
termination_by structural t => t

def conditionsOf : List Tree → List Condition
  | [] => []
  | t :: rest => t.conditions ++ conditionsOf rest
termination_by structural ts => ts

end

theorem mem_conditionsOf {c : Condition} {trees : List Tree} :
    c ∈ conditionsOf trees ↔ ∃ t ∈ trees, c ∈ t.conditions := by
  induction trees with
  | nil => simp [conditionsOf]
  | cons t rest ih => simp [conditionsOf, ih]

/-- What holds of all conditions of trees holds of those of each tree. -/
theorem forall_conditionsOf {P : Condition → Prop} {trees : List Tree} :
    (∀ c ∈ conditionsOf trees, P c) ↔ ∀ t ∈ trees, ∀ c ∈ t.conditions, P c := by
  constructor
  · exact fun all t member c inside => all c (mem_conditionsOf.mpr ⟨t, member, inside⟩)
  · intro each c inside
    obtain ⟨t, member, inside⟩ := mem_conditionsOf.mp inside
    exact each t member c inside

@[simp] theorem forall_conditions_leaf {P : Condition → Prop} {c : Condition} :
    (∀ other ∈ (leaf c).conditions, P other) ↔ P c := by
  simp [conditions]

theorem toDrafts_eq_map (trees : List Tree) : toDrafts trees = trees.map toDraft := by
  induction trees with
  | nil => rfl
  | cons t rest ih => simp [toDrafts, ih]

theorem toDocuments_eq_map (trees : List Tree) : toDocuments trees = trees.map toDocument := by
  induction trees with
  | nil => rfl
  | cons t rest ih => simp [toDocuments, ih]

end Tree

/-- The conditions at the leaves of a group. -/
def Group.conditions (g : Group) : List Condition :=
  Tree.conditionsOf g.members

/-- What holds of conditions, and of groups if it holds of their members, holds of all drafts. -/
@[elab_as_elim, induction_eliminator]
theorem Draft.induct {motive : Draft → Prop}
    (leaf : ∀ field operator value, motive (.leaf field operator value))
    (group : ∀ conjunction members, (∀ d ∈ members, motive d) →
      motive (.group conjunction members)) : ∀ d, motive d
  | .leaf field operator value => leaf field operator value
  | .group conjunction members =>
    group conjunction members fun d _ => Draft.induct leaf group d

end SearchFilter
