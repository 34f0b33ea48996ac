import SearchFilter.Proofs.Lowering.Walk
import SearchFilter.Proofs.Store.Following

/-!
Records of patterns that begin with a wildcard. They tell how far lowering came, and nothing depends on
them. Main statement: lowering logs one such record for each pattern before the node at which it ends, in
pre-order, or none if they are not wanted; what it gives is the same either way.
-/

namespace SearchFilter

namespace Draft.Node

variable {n : Node} {failure : Failure}

/-- A group, or a condition whose field can be a key, as every text can. -/
def Keyed : Node → Prop
  | .group _ => True
  | .condition _ field _ _ => field.isKey = true

/-- A pattern on a field that can be a key always has a test, so a node that fails has no record. -/
theorem warning?_of_failing (keyed : n.Keyed) (failing : n.outcome = .error failure) :
    n.warning? = none := by
  cases n with
  | group conjunction => rfl
  | condition within field operator value =>
    cases operator with
    | foreign other => rfl
    | known op =>
      have key : field.isKey = true := keyed
      apply if_neg
      intro pattern
      have tested : ∃ test, Leaf.make op field value = .ok test := by
        rcases pattern with rfl | rfl
        · exact ⟨_, if_pos key⟩
        · exact ⟨_, if_pos key⟩
      obtain ⟨test, made⟩ := tested
      rw [outcome, made] at failing
      cases failing

end Draft.Node

namespace Lowering

open Draft (Node preorder)

variable {conjunction : Slot Conjunction} {members : List Draft} {nodes : List Node} {failure : Failure}

/-- A way of lowering, with records or without, logs the patterns of nodes that begin with a wildcard. -/
structure Warns (run : Bool → Trace LogRecord BoolQuery) (nodes : List Node) : Prop where
  silent : (run false).events = []
  same : (run false).result = (run true).result
  complete : ∀ q, (run true).result = .ok q → (run true).events = nodes.filterMap Node.warning?
  -- a pattern on a field that is no key fails after its own record; an unchecked filter can have one
  broken : ∀ failure, (run true).result = .error failure → ∃ before n after,
    nodes = before ++ n :: after ∧ (∀ m ∈ before, m.outcome = .ok ()) ∧ n.outcome = .error failure ∧
      (n.Keyed → (run true).events = before.filterMap Node.warning?) ∧
      (¬ n.Keyed → (run true).events = (before ++ [n]).filterMap Node.warning?)

theorem events_walk_false (nodes : List Node) : (walk false nodes).events = [] := by
  rcases passing_or_failing nodes with passing | ⟨before, n, after, failure, rfl, passing, failing⟩
  · rw [walk_of_passing passing]
    rfl
  · rw [walk_of_failing passing failing]
    rfl

theorem events_walk_of_ok (passed : (walk true nodes).result = .ok ()) :
    (walk true nodes).events = nodes.filterMap Node.warning? := by
  rcases passing_or_failing nodes with passing | ⟨before, n, after, failure, rfl, passing, failing⟩
  · rw [walk_of_passing passing]
    rfl
  · rw [walk_of_failing passing failing] at passed
    cases passed

theorem events_walk_of_error (failed : (walk true nodes).result = .error failure) :
    ∃ before n after, nodes = before ++ n :: after ∧ (∀ m ∈ before, m.outcome = .ok ()) ∧
      n.outcome = .error failure ∧
      (walk true nodes).events = (before ++ [n]).filterMap Node.warning? := by
  rcases passing_or_failing nodes with passing | ⟨before, n, after, other, rfl, passing, failing⟩
  · rw [walk_of_passing passing] at failed
    cases failed
  · rw [walk_of_failing passing failing] at failed ⊢
    cases failed
    exact ⟨before, n, after, rfl, passing, failing, rfl⟩

/-- What is lowered as nodes are walked, with one result, logs the patterns of these nodes. -/
theorem warns_of_course {run : Bool → Trace LogRecord BoolQuery}
    (course : ∀ warnings, (run warnings).course = walk warnings nodes)
    (same : (run false).result = (run true).result) : Warns run nodes := by
  have events (warnings : Bool) : (run warnings).events = (walk warnings nodes).events :=
    congrArg Trace.events (course warnings)
  have result (warnings : Bool) :
      (run warnings).result.map (fun _ => ()) = (walk warnings nodes).result :=
    congrArg Trace.result (course warnings)
  refine ⟨?_, same, ?_, ?_⟩
  · rw [events, events_walk_false]
  · intro q given
    rw [events, events_walk_of_ok]
    rw [← result, given]
    rfl
  · intro failure failed
    have stopped : (walk true nodes).result = .error failure := by
      rw [← result, failed]
      rfl
    obtain ⟨before, n, after, whole, passing, failing, logged⟩ := events_walk_of_error stopped
    rw [events]
    refine ⟨before, n, after, whole, passing, failing, ?_, fun _ => logged⟩
    intro keyed
    rw [logged, List.filterMap_append,
      List.filterMap_cons_none (Node.warning?_of_failing keyed failing), List.filterMap_nil,
      List.append_nil]

theorem result_group_eq (warnings : Bool) (conjunction : Slot Conjunction) (members : List Draft) :
    (group warnings conjunction members).result = (group true conjunction members).result := by
  cases conjunction with
  | foreign other => rfl
  | known c => rw [group, group, result_members, result_members]

/-- Lowering a filter logs its patterns that begin with a wildcard, and so does lowering a group of a store,
where a group that occurs twice counts twice. -/
theorem warns_in_preorder :
    (∀ conjunction members, Warns (fun warnings => group warnings conjunction members)
      (preorder conjunction members)) ∧
    ∀ (s : Store) id g, s.tree? id = some g → Warns (fun warnings => s.lower warnings id)
      (preorder (.known g.conjunction) (Tree.toDrafts g.members)) := by
  have filters (conjunction : Slot Conjunction) (members : List Draft) :
      Warns (fun warnings => group warnings conjunction members) (preorder conjunction members) :=
    warns_of_course (fun warnings => course_group warnings conjunction members)
      (result_group_eq false conjunction members)
  refine ⟨filters, ?_⟩
  intro s id g known
  have lowered : (fun warnings => s.lower warnings id) =
      fun warnings => group warnings (.known g.conjunction) (Tree.toDrafts g.members) := by
    funext warnings
    exact Store.lower_of_tree? known
  rw [lowered]
  exact filters _ _

/-- A pattern at the end of a name, and twice the group with a pattern inside a title. -/
def patterned : Store :=
  ⟨[⟨.and, [.leaf ⟨"name", .endsWith, .text "son"⟩, .group 1, .group 1]⟩,
    ⟨.or, [.leaf ⟨"title", .contains, .text "war"⟩, .leaf ⟨"size", .gt, .int 5⟩]⟩]⟩

theorem warns_in_preorder_patterned :
    (∃ g, patterned.tree? 0 = some g) ∧
    (patterned.lower false 0).events = [] ∧
    (patterned.lower true 0).events =
      [wildcardWarning (.text "name") .endsWith, wildcardWarning (.text "title") .contains,
        wildcardWarning (.text "title") .contains] := by
  have known : ∃ g, patterned.tree? 0 = some g := ⟨_, rfl⟩
  refine ⟨known, ?_⟩
  have warns := warns_in_preorder.2 patterned 0 _ rfl
  exact ⟨warns.silent, warns.complete _ rfl⟩

end Lowering

end SearchFilter
