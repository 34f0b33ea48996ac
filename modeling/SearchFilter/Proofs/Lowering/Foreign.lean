import SearchFilter.Proofs.Condition.Table
import SearchFilter.Proofs.Lowering.Refusal
import SearchFilter.Proofs.Lowering.Walk

/-!
Filters with operators and conjunctions that are none. Where all else in a filter can be lowered, such a
node is never left out. Main statement: lowering refuses a filter exactly if it has such a node, and it
reports the first of them in pre-order.
-/

namespace SearchFilter

/-- A value of the shape that its operator takes has a test, a range if its ends can be put in order. -/
theorem Leaf.make_isOk_of_takes {op : Operator} {field value : Value} (key : field.isKey = true)
    (takes : Condition.Takes op value)
    (ordered : op = .between → ∀ low high, value.items? = some [low, high] →
      low.HasKey ∧ high.HasKey ∧ low.Comparable high) : ∃ test, make op field value = .ok test := by
  cases op with
  | between =>
    obtain ⟨low, high, given, _, _⟩ := takes
    have items : value.items? = some [low, high] := by
      rcases given with rfl | rfl
      · rfl
      · rfl
    exact (within_isOk_iff key items).mpr (ordered rfl low high items)
  | isIn | notIn =>
    obtain ⟨items, given, _, _⟩ := takes
    refine ⟨.terms field items, ?_⟩
    rcases given with rfl | rfl | rfl
    all_goals simp [make, anyOf, Value.items?, keyed, key]
  | _ => simp [make, keyed, key]

namespace Draft.Node

variable {n : Node} {u : Unsupported} {failure : Failure}

/-- A group whose conjunction is none, or a condition whose operator is none. -/
def Foreign : Node → Prop
  | .group (.foreign _) | .condition _ _ (.foreign _) _ => True
  | .group (.known _) | .condition _ _ (.known _) _ => False

/-- A condition with an operator has a field that can be a key and a value of the shape that the operator
takes; the two ends of a range have natural keys that can be compared. -/
def Sound : Node → Prop
  | .condition _ field (.known op) value => field.isKey = true ∧ Condition.Takes op value ∧
      (op = .between → ∀ low high, value.items? = some [low, high] →
        low.HasKey ∧ high.HasKey ∧ low.Comparable high)
  | _ => True

theorem foreign_iff : n.Foreign ↔ ∃ u, n.refusal? = some u := by
  cases n with
  | group conjunction => cases conjunction <;> simp [Foreign, refusal?]
  | condition within field operator value => cases operator <;> simp [Foreign, refusal?]

theorem outcome_of_refusal (refused : n.refusal? = some u) : n.outcome = .error (.unsupported u) := by
  cases n with
  | group conjunction => simp only [outcome, refused]
  | condition within field operator value =>
    cases operator with
    | known op => cases refused
    | foreign other => simp only [outcome, refused]

theorem outcome_of_not_foreign (sound : n.Sound) (own : ¬ n.Foreign) : n.outcome = .ok () := by
  cases n with
  | group conjunction =>
    cases conjunction with
    | known c => rfl
    | foreign other => exact absurd trivial own
  | condition within field operator value =>
    cases operator with
    | foreign other => exact absurd trivial own
    | known op =>
      obtain ⟨key, takes, ordered⟩ := sound
      obtain ⟨test, made⟩ := Leaf.make_isOk_of_takes key takes ordered
      rw [outcome, made]
      rfl

theorem not_foreign_of_outcome (passes : n.outcome = .ok ()) : ¬ n.Foreign := by
  intro foreign
  obtain ⟨u, refused⟩ := foreign_iff.mp foreign
  rw [outcome_of_refusal refused] at passes
  cases passes

theorem refusal_of_outcome (sound : n.Sound) (failing : n.outcome = .error failure) :
    ∃ u, n.refusal? = some u ∧ failure = .unsupported u := by
  by_cases foreign : n.Foreign
  · obtain ⟨u, refused⟩ := foreign_iff.mp foreign
    rw [outcome_of_refusal refused] at failing
    exact ⟨u, refused, (Except.error.inj failing).symm⟩
  · rw [outcome_of_not_foreign sound foreign] at failing
    cases failing

end Draft.Node

namespace Lowering

open Draft (Node preorder)

variable {warnings : Bool} {conjunction : Slot Conjunction} {members : List Draft} {nodes : List Node}
  {u : Unsupported}

/-- A walk over sound nodes ends at the first of them whose operator or conjunction is none, with its
refusal. -/
theorem walk_eq_refused_iff (sound : ∀ n ∈ nodes, n.Sound) :
    (walk warnings nodes).result = .error (.unsupported u) ↔ ∃ before n after,
      nodes = before ++ n :: after ∧ (∀ m ∈ before, ¬ m.Foreign) ∧ n.refusal? = some u := by
  constructor
  · intro refused
    rcases passing_or_failing nodes with passing | ⟨before, n, after, failure, rfl, passing, failing⟩
    · rw [walk_of_passing passing] at refused
      cases refused
    · rw [walk_of_failing passing failing] at refused
      cases refused
      obtain ⟨first, own, same⟩ := Node.refusal_of_outcome (sound n List.mem_append_cons_self) failing
      cases same
      refine ⟨before, n, after, rfl, ?_, own⟩
      intro m member
      exact Node.not_foreign_of_outcome (passing m member)
  · intro first
    obtain ⟨before, n, after, rfl, own, refused⟩ := first
    have passing : ∀ m ∈ before, m.outcome = .ok () := by
      intro m member
      exact Node.outcome_of_not_foreign (sound m (List.mem_append_left _ member)) (own m member)
    rw [walk_of_failing passing (Node.outcome_of_refusal refused)]

theorem walk_isOk_iff (sound : ∀ n ∈ nodes, n.Sound) :
    (walk warnings nodes).result = .ok () ↔ ∀ n ∈ nodes, ¬ n.Foreign := by
  constructor
  · intro passed n member foreign
    rcases passing_or_failing nodes with passing | ⟨before, m, after, failure, rfl, passing, failing⟩
    · exact Node.not_foreign_of_outcome (passing n member) foreign
    · rw [walk_of_failing passing failing] at passed
      cases passed
  · intro own
    have passing : ∀ n ∈ nodes, n.outcome = .ok () := by
      intro n member
      exact Node.outcome_of_not_foreign (sound n member) (own n member)
    rw [walk_of_passing passing]

/-- Lowering refuses a filter, whose conditions are sound where they have operators, exactly if an operator
or a conjunction anywhere in it is none, and else gives a query. The refusal is that of the first such node in
pre-order: of a condition by its operator and the conjunction of its group, or of a group by its conjunction. -/
theorem group_refuses_first_foreign (sound : ∀ n ∈ preorder conjunction members, n.Sound)
    (warnings : Bool) :
    ((∃ u, (group warnings conjunction members).result = .error (.unsupported u)) ↔
      ∃ n ∈ preorder conjunction members, n.Foreign) ∧
    (∀ u, (group warnings conjunction members).result = .error (.unsupported u) ↔
      ∃ before n after, preorder conjunction members = before ++ n :: after ∧
        (∀ m ∈ before, ¬ m.Foreign) ∧ n.refusal? = some u) ∧
    ((∃ q, (group warnings conjunction members).result = .ok q) ↔
      ∀ n ∈ preorder conjunction members, ¬ n.Foreign) := by
  have refused (u : Unsupported) : (group warnings conjunction members).result = .error (.unsupported u) ↔
      ∃ before n after, preorder conjunction members = before ++ n :: after ∧
        (∀ m ∈ before, ¬ m.Foreign) ∧ n.refusal? = some u :=
    result_group_eq_error_iff.trans (walk_eq_refused_iff sound)
  have given : (∃ q, (group warnings conjunction members).result = .ok q) ↔
      ∀ n ∈ preorder conjunction members, ¬ n.Foreign :=
    result_group_isOk_iff.trans (walk_isOk_iff sound)
  refine ⟨?_, refused, given⟩
  constructor
  · intro fails
    obtain ⟨u, failed⟩ := fails
    obtain ⟨before, n, after, same, _, own⟩ := (refused u).mp failed
    rw [same]
    exact ⟨n, List.mem_append_cons_self, Node.foreign_iff.mpr ⟨u, own⟩⟩
  · intro present
    obtain ⟨n, member, foreign⟩ := present
    rcases passing_or_failing (preorder conjunction members) with
      passing | ⟨before, first, after, failure, same, passing, failing⟩
    · exact absurd foreign (Node.not_foreign_of_outcome (passing n member))
    · have inside : first ∈ preorder conjunction members := by
        rw [same]
        exact List.mem_append_cons_self
      obtain ⟨u, own, _⟩ := Node.refusal_of_outcome (sound first inside) failing
      refine ⟨u, (refused u).mpr ⟨before, first, after, same, ?_, own⟩⟩
      intro m earlier
      exact Node.not_foreign_of_outcome (passing m earlier)

/-- A range, an empty group of an unknown conjunction deep inside, and a condition of an unknown operator
after it. -/
def misnamed : List Draft :=
  [.leaf (.text "size") (.known .between) (.tuple [.text "x10", .text "x9"]),
    .group (.known .or) [.group (.known .and) [], .group (.foreign (.text "XOR")) []],
    .leaf (.text "title") (.foreign (.text "LIKE")) (.text "a")]

theorem group_refuses_first_foreign_misnamed :
    (∀ n ∈ preorder (.known .and) misnamed, n.Sound) ∧
    (group true (.known .and) misnamed).result = .error (.unsupported ⟨"group", some "XOR", []⟩) := by
  have keyed : (Value.text "x10").HasKey ∧ (Value.text "x9").HasKey ∧
      (Value.text "x10").Comparable (.text "x9") :=
    NaturalKey.sortValues_pair_isOk_iff.mp ⟨_, rfl⟩
  have sound : ∀ n ∈ preorder (.known .and) misnamed, n.Sound := by
    have range : (Node.condition (.known .and) (.text "size") (.known .between)
        (.tuple [.text "x10", .text "x9"])).Sound := by
      refine ⟨rfl, ⟨_, _, .inr rfl, rfl, rfl⟩, ?_⟩
      intro _ low high same
      cases same
      exact keyed
    simp only [preorder, misnamed, Draft.nodesOf, Draft.nodes, List.cons_append, List.nil_append,
      List.forall_mem_cons]
    exact ⟨trivial, range, trivial, trivial, trivial, trivial, List.forall_mem_nil _⟩
  refine ⟨sound, ((group_refuses_first_foreign sound true).2.1 _).mpr ?_⟩
  refine ⟨[.group (.known .and), .condition (.known .and) (.text "size") (.known .between)
    (.tuple [.text "x10", .text "x9"]), .group (.known .or), .group (.known .and)],
    .group (.foreign (.text "XOR")), _, rfl, ?_, rfl⟩
  simp [Node.Foreign]

end Lowering

end SearchFilter
