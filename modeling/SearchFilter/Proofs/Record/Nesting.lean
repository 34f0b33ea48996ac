import SearchFilter.Proofs.Checked
import SearchFilter.Proofs.Condition.Table
import SearchFilter.Tree.Record

/-!
Filters as nested records, written and read again. The record of a group has its members where a
document has conditions, and a member of it is first taken for a condition. Main statement: the record
of a filter is read back exactly if no group is inside the filter, for the record of a group has no
field and is refused as a condition before it is taken for a group.
-/

namespace SearchFilter

mutual

/-- The nested record of a tree. -/
def Tree.toRecord : Tree → Value
  | .leaf c => c.toDocument
  | .group conjunction members =>
    .ofFields [("conjunction", .text conjunction.name), ("members", .list (Tree.toRecords members))]
termination_by structural t => t

def Tree.toRecords : List Tree → List Value
  | [] => []
  | t :: rest => t.toRecord :: Tree.toRecords rest
termination_by structural ts => ts

end

/-- The nested record of a group. -/
def Group.toRecord (g : Group) : Value :=
  g.toTree.toRecord

/-- A filter without a group inside: all its members are conditions. -/
def Group.Flat (g : Group) : Prop :=
  ∀ t ∈ g.members, ∃ c, t = .leaf c

namespace Record

variable {c : Condition} {trees : List Tree}

/-- What refuses the record of a group where a condition is expected: it has no field. -/
def groupRefusal : Failure :=
  .malformed (.blankField .null)

theorem member_toRecord_leaf (accepted : c.Accepted) :
    member (Tree.leaf c).toRecord = .ok ⟨.leaf c, conditionFields⟩ := by
  obtain ⟨written, same, made⟩ := Condition.ofEntries_toDocument accepted
  cases same
  rw [Tree.toRecord, Condition.toDocument, Value.ofFields, member]
  simp only [List.map_cons, List.map_nil] at made ⊢
  rw [made]
  rfl

theorem member_toRecord_group (conjunction : Conjunction) (members : List Tree) :
    member (Tree.group conjunction members).toRecord = .stopped groupRefusal :=
  rfl

theorem readings_toRecords_of_flat (index : Nat) (flat : ∀ t ∈ trees, ∃ c, t = .leaf c)
    (accepted : ∀ t ∈ trees, ∀ c ∈ t.conditions, c.Accepted) :
    readings index (Tree.toRecords trees) = .ok (trees.map fun t => ⟨t, conditionFields⟩) := by
  induction trees generalizing index with
  | nil => rfl
  | cons t rest ih =>
    obtain ⟨first, later⟩ := List.forall_mem_cons.mp flat
    obtain ⟨own, others⟩ := List.forall_mem_cons.mp accepted
    obtain ⟨c, rfl⟩ := first
    have head := member_toRecord_leaf (Tree.forall_conditions_leaf.mp own)
    have tail := ih (index + 1) later others
    refine Field.Checked.seq_eq_ok_iff.mpr ⟨_, _, ?_, tail, rfl⟩
    exact Field.Checked.inside_eq_ok_iff.mpr head

/-- Among the records of members that of the first group ends the reading. -/
theorem readings_toRecords_of_group (index : Nat) (nested : ∃ t ∈ trees, ∀ c, t ≠ .leaf c)
    (accepted : ∀ t ∈ trees, ∀ c ∈ t.conditions, c.Accepted) :
    readings index (Tree.toRecords trees) = .stopped groupRefusal := by
  induction trees generalizing index with
  | nil =>
    obtain ⟨t, member, _⟩ := nested
    cases member
  | cons t rest ih =>
    obtain ⟨own, others⟩ := List.forall_mem_cons.mp accepted
    cases t with
    | group conjunction members =>
      rw [Tree.toRecords, readings, member_toRecord_group]
      rfl
    | leaf c =>
      have later : ∃ t ∈ rest, ∀ c, t ≠ .leaf c := by
        obtain ⟨t, member, group⟩ := nested
        rcases List.mem_cons.mp member with same | member
        · exact absurd same (group c)
        · exact ⟨t, member, group⟩
      have head := member_toRecord_leaf (Tree.forall_conditions_leaf.mp own)
      have tail := ih (index + 1) later others
      rw [Tree.toRecords, readings, head, tail]
      rfl

theorem ofRecord_toRecord (g : Group) : Group.ofRecord g.toRecord =
    ((readings 0 (Tree.toRecords g.members)).inside (.name "members")).map fun found =>
      ⟨g.conjunction, found.map (·.tree)⟩ := by
  obtain ⟨conjunction, members⟩ := g
  have named : readConjunction [(.text "conjunction", .text conjunction.name),
      (.text "members", .list (Tree.toRecords members))] = .ok (conjunction, 1) := by
    simp only [readConjunction, Value.lookup?_cons_self, Conjunction.read_name]
  have listed : members? [(.text "conjunction", .text conjunction.name),
      (.text "members", .list (Tree.toRecords members))] =
      ((readings 0 (Tree.toRecords members)).inside (.name "members")).map some := by
    simp [members?, listed?, items]
  simp only [Group.toRecord, Group.toTree, Tree.toRecord, Value.ofFields, Group.ofRecord, List.map_cons,
    List.map_nil, named, listed]
  cases (readings 0 (Tree.toRecords members)).inside (.name "members") <;> rfl

end Record

/-- The nested record of a filter of accepted conditions is read as that filter exactly if the filter has
no group inside; otherwise it is refused as a condition without a field. The document of the filter is
read as the filter in both cases. -/
theorem Group.ofRecord_toRecord_iff_flat {g : Group} (accepted : ∀ c ∈ g.conditions, c.Accepted) :
    (ofRecord g.toRecord = .ok g ↔ g.Flat) ∧
    (¬ g.Flat → ofRecord g.toRecord = .stopped (.malformed (.blankField .null))) ∧
    ofDocument g.toDocument = .ok g := by
  have each := Tree.forall_conditionsOf.mp accepted
  have refused : ¬ g.Flat → ofRecord g.toRecord = .stopped Record.groupRefusal := by
    intro nested
    have group : ∃ t ∈ g.members, ∀ c, t ≠ .leaf c := by
      simpa [Group.Flat] using nested
    rw [Record.ofRecord_toRecord, Record.readings_toRecords_of_group 0 group each]
    rfl
  refine ⟨?_, refused, ofDocument_toDocument accepted⟩
  constructor
  · intro read
    by_contra nested
    rw [refused nested] at read
    cases read
  · intro flat
    rw [Record.ofRecord_toRecord, Record.readings_toRecords_of_flat 0 flat each]
    simp [Field.Checked.inside, Field.Checked.map, Function.comp_def]

/-- A condition before a group with a condition of its own. -/
def tagsOrBody : Group :=
  ⟨.and, [.leaf ⟨"tag", .isIn, .tuple [.text "b", .text "a"]⟩,
    .group .or [.leaf ⟨"body", .isNull, .null⟩]]⟩

theorem accepted_tagsOrBody : ∀ c ∈ tagsOrBody.conditions, c.Accepted := by
  intro c present
  rcases List.mem_cons.mp present with rfl | present
  · exact ⟨.text "tag", .operator .isIn, .list [.text "b", .text "a"], rfl⟩
  · cases List.mem_singleton.mp present
    exact ⟨.text "body", .operator .isNull, .null, rfl⟩

theorem Group.ofRecord_toRecord_iff_flat_tagsOrBody :
    (ofRecord tagsOrBody.toRecord = .ok tagsOrBody ↔ tagsOrBody.Flat) ∧
    (¬ tagsOrBody.Flat → ofRecord tagsOrBody.toRecord = .stopped (.malformed (.blankField .null))) ∧
    ofDocument tagsOrBody.toDocument = .ok tagsOrBody :=
  ofRecord_toRecord_iff_flat accepted_tagsOrBody

/-- An empty group inside a group is not read back out of its record. -/
theorem Group.ofRecord_refuses_nested :
    ¬ ∀ g : Group, (∀ c ∈ g.conditions, c.Accepted) → ofRecord g.toRecord = .ok g := by
  intro always
  have read := always ⟨.and, [.group .or []]⟩ (by
    intro c present
    cases present)
  cases read

end SearchFilter
