import SearchFilter.Proofs.Lowering.Piece

namespace SearchFilter

namespace Trace

variable {ε α β γ : Type}

/-- What happened in a run, and whether it failed, without what it gave. -/
def course (t : Trace ε α) : Trace ε Unit :=
  ⟨t.events, t.result.map fun _ => ()⟩

@[simp] theorem course_pure (a : α) : (pure a : Trace ε α).course = pure () := rfl

@[simp] theorem course_fail (failure : Failure) : (fail failure : Trace ε α).course = fail failure := rfl

theorem bind_pure_unit (t : Trace ε Unit) : (t >>= fun _ => (pure () : Trace ε Unit)) = t := by
  obtain ⟨events, result⟩ := t
  cases result with
  | error failure => rfl
  | ok a =>
    change (⟨events ++ [], .ok ()⟩ : Trace ε Unit) = _
    rw [List.append_nil]

theorem lift_bind_pure (result : Except Failure α) (f : α → β) :
    (lift result >>= fun a => (pure (f a) : Trace ε β)) = lift (result.map f) := by
  cases result with
  | error failure => rfl
  | ok a => rfl

theorem bind_bind_eq (t : Trace ε α) (next : α → Trace ε β) (last : β → Trace ε γ) :
    t >>= next >>= last = t >>= fun a => next a >>= last := by
  cases ran : t.result with
  | error failure => rw [bind_of_error next ran, bind_of_error _ ran, bind_of_error _ rfl]
  | ok a =>
    rw [bind_of_ok next ran, bind_of_ok _ ran]
    cases later : (next a).result with
    | error failure => rw [bind_of_error _ rfl, bind_of_error _ later]
    | ok b => rw [bind_of_ok _ rfl, bind_of_ok _ later, List.append_assoc]

theorem course_bind (t : Trace ε α) (next : α → Trace ε β) :
    (t >>= next).course = t >>= fun a => (next a).course := by
  cases ran : t.result with
  | error failure =>
    rw [bind_of_error next ran, bind_of_error _ ran]
    rfl
  | ok a =>
    rw [bind_of_ok next ran, bind_of_ok _ ran]
    rfl

/-- What comes after a run and asks for nothing of it comes after its course. -/
theorem bind_const_eq (t : Trace ε α) (last : Trace ε β) :
    (t >>= fun _ => last) = t.course >>= fun _ => last := by
  cases ran : t.result with
  | error failure =>
    have failed : t.course.result = .error failure := Result.map_eq_error_iff.mpr ran
    rw [bind_of_error _ ran, bind_of_error _ failed]
    rfl
  | ok a =>
    have done : t.course.result = .ok () := Result.map_eq_ok_iff.mpr ⟨a, ran, rfl⟩
    rw [bind_of_ok _ ran, bind_of_ok _ done]
    rfl

end Trace

theorem Unsupported.of_nil (operator : Value) (conjunction : Option Value) :
    of operator conjunction [] = ⟨wordOf operator, conjunction.map wordOf, []⟩ := by
  simp [of, Text.similar]

/-- The word for what stands in the place of a conjunction, if anything does. -/
def Slot.word? : Slot Conjunction → Option String
  | .known c => some c.name
  | .foreign .null => none
  | .foreign other => some (Unsupported.wordOf other)

namespace Draft

/-- A node of a draft: a group by its conjunction, or a condition with the conjunction of its group. -/
inductive Node
  | group (conjunction : Slot Conjunction)
  | condition (within : Slot Conjunction) (field : Value) (operator : Slot Operator) (value : Value)
  deriving Repr

mutual

/-- The nodes of a member of a group with a given conjunction, each group before its members. -/
def nodes (within : Slot Conjunction) : Draft → List Node
  | .leaf field operator value => [.condition within field operator value]
  | .group conjunction members => .group conjunction :: nodesOf conjunction members
termination_by structural d => d

def nodesOf (within : Slot Conjunction) : List Draft → List Node
  | [] => []
  | d :: rest => d.nodes within ++ nodesOf within rest
termination_by structural ds => ds

end

/-- The nodes of a filter in pre-order, its root first. -/
def preorder (conjunction : Slot Conjunction) (members : List Draft) : List Node :=
  .group conjunction :: nodesOf conjunction members

namespace Node

/-- The refusal of a node without a meaning: of a group by its conjunction, of a condition by its
operator and the conjunction of its group. -/
def refusal? : Node → Option Unsupported
  | .group (.foreign other) => some ⟨"group", (Slot.foreign other).word?, []⟩
  | .condition within _ (.foreign other) _ => some ⟨Unsupported.wordOf other, within.word?, []⟩
  | .group (.known _) | .condition _ _ (.known _) _ => none

/-- Whether lowering passes a node, and else why it fails there. -/
def outcome : Node → Except Failure Unit
  | .condition _ field (.known op) value => (Leaf.make op field value).map fun _ => ()
  | n => match n.refusal? with
    | some u => .error (.unsupported u)
    | none => .ok ()

/-- The record of a pattern that begins with a wildcard, which names the field and the operator. -/
def warning? : Node → Option LogRecord
  | .condition _ field (.known op) _ =>
    if op = .endsWith ∨ op = .contains then
      some ⟨.warning, .compiler, "Leading-wildcard query on field '" ++ field.display ++ "' (" ++
        op.name ++ ") can be slow on large indexes"⟩
    else none
  | _ => none

/-- The records that nodes give rise to, if such records are wanted. -/
def logged (warnings : Bool) (nodes : List Node) : List LogRecord :=
  if warnings then nodes.filterMap warning? else []

/-- What lowering does at a node itself. -/
def visit (warnings : Bool) (n : Node) : Trace LogRecord Unit :=
  ⟨logged warnings [n], n.outcome⟩

@[simp] theorem logged_nil (warnings : Bool) : logged warnings [] = [] := by
  cases warnings <;> rfl

theorem logged_append (warnings : Bool) (first later : List Node) :
    logged warnings (first ++ later) = logged warnings first ++ logged warnings later := by
  cases warnings with
  | true => exact List.filterMap_append
  | false => rfl

end Node

end Draft

namespace Lowering

open Draft (Node)

variable {warnings : Bool} {conjunction : Conjunction} {nodes before after : List Node} {n : Node}
  {failure : Failure}

/-- The nodes one after another, up to the first that fails. -/
def walk (warnings : Bool) : List Node → Trace LogRecord Unit
  | [] => pure ()
  | n :: rest => do
    n.visit warnings
    walk warnings rest

theorem walk_append (first later : List Node) :
    walk warnings (first ++ later) = walk warnings first >>= fun _ => walk warnings later := by
  induction first with
  | nil => rfl
  | cons n rest ih => rw [List.cons_append, walk, ih, walk, Trace.bind_bind_eq]

theorem walk_singleton (n : Node) : walk warnings [n] = n.visit warnings :=
  Trace.bind_pure_unit _

theorem badGroup_eq (other : Value) :
    badGroup other = .unsupported ⟨"group", (Slot.foreign other).word?, []⟩ := by
  cases other with
  | _ =>
    unfold badGroup
    rw [Unsupported.of_nil]
    rfl

theorem walk_foreign_group (other : Value) (rest : List Node) :
    walk warnings (.group (.foreign other) :: rest) = .fail (badGroup other) := by
  rw [badGroup_eq]
  cases warnings with
  | true => rfl
  | false => rfl

theorem walk_known_group (c : Conjunction) (rest : List Node) :
    walk warnings (.group (.known c) :: rest) = walk warnings rest := by
  cases warnings with
  | true => rfl
  | false => rfl

theorem warn_eq (wanted : Bool) (field : Value) (op : Operator) (within : Slot Conjunction)
    (value : Value) : warn wanted field op =
      ⟨Node.logged wanted [.condition within field (.known op) value], .ok ()⟩ := by
  cases wanted with
  | false => rfl
  | true =>
    unfold warn Node.logged
    rw [if_pos rfl]
    by_cases pattern : op = .endsWith ∨ op = .contains
    · have leads : op.leadsWithWildcard = true := decide_eq_true pattern
      have own : (Node.condition within field (.known op) value).warning? =
          some (wildcardWarning field op) := if_pos pattern
      rw [leads, List.filterMap_cons_some own]
      rfl
    · have leads : op.leadsWithWildcard = false := decide_eq_false pattern
      have none : (Node.condition within field (.known op) value).warning? = none := if_neg pattern
      rw [leads, List.filterMap_cons_none none]
      rfl

theorem course_condition (field : Value) (operator : Slot Operator) (value : Value) (q : BoolQuery) :
    (condition warnings conjunction field operator value q).course =
      (Node.condition (.known conjunction) field operator value).visit warnings := by
  cases operator with
  | foreign other =>
    rw [condition, Unsupported.of_nil]
    cases warnings with
    | true => rfl
    | false => rfl
  | known op =>
    have tested : (Node.condition (.known conjunction) field (.known op) value).outcome =
        (Leaf.make op field value).map fun _ => () := rfl
    simp only [condition, Trace.lift_bind_pure]
    rw [warn_eq warnings field op (.known conjunction) value, Trace.bind_of_ok _ rfl, Node.visit, tested,
      Trace.course, Trace.events_lift, Trace.result_lift, List.append_nil]
    cases Leaf.make op field value with
    | error failure => rfl
    | ok test => rfl

private theorem course_members_of {drafts : List Draft}
    (each : ∀ d ∈ drafts, ∀ conjunction q, (member warnings conjunction d q).course =
      walk warnings (d.nodes (.known conjunction))) (q : BoolQuery) :
    (members warnings conjunction drafts q).course =
      walk warnings (Draft.nodesOf (.known conjunction) drafts) := by
  induction drafts generalizing q with
  | nil => rfl
  | cons d rest ih =>
    obtain ⟨first, later⟩ := List.forall_mem_cons.mp each
    rw [members, Draft.nodesOf, walk_append, Trace.course_bind, ← first conjunction q]
    simp only [ih later]
    exact Trace.bind_const_eq _ _

theorem course_member (d : Draft) (conjunction : Conjunction) (q : BoolQuery) :
    (member warnings conjunction d q).course = walk warnings (d.nodes (.known conjunction)) := by
  induction d generalizing conjunction q with
  | leaf field operator value =>
    rw [member, Draft.nodes, walk_singleton, course_condition]
  | group inner drafts ih =>
    cases inner with
    | foreign other =>
      rw [member, Draft.nodes, Trace.course_fail, walk_foreign_group]
    | known inner =>
      rw [member, Trace.course_bind, Draft.nodes, walk_known_group]
      simp only [Trace.course_pure]
      rw [Trace.bind_const_eq, Trace.bind_pure_unit, course_members_of ih .empty]

/-- A group is lowered as the nodes of it are walked. -/
theorem course_group (warnings : Bool) (conjunction : Slot Conjunction) (drafts : List Draft) :
    (group warnings conjunction drafts).course = walk warnings (Draft.preorder conjunction drafts) := by
  cases conjunction with
  | foreign other =>
    rw [group, Draft.preorder, Trace.course_fail, walk_foreign_group]
  | known c =>
    rw [group, Draft.preorder, walk_known_group,
      course_members_of (fun d _ => course_member d) .empty]

theorem result_group_eq_error_iff {conjunction : Slot Conjunction} {drafts : List Draft} :
    (group warnings conjunction drafts).result = .error failure ↔
      (walk warnings (Draft.preorder conjunction drafts)).result = .error failure := by
  rw [← course_group, Trace.course, Result.map_eq_error_iff]

theorem result_group_isOk_iff {conjunction : Slot Conjunction} {drafts : List Draft} :
    (∃ q, (group warnings conjunction drafts).result = .ok q) ↔
      (walk warnings (Draft.preorder conjunction drafts)).result = .ok () := by
  rw [← course_group, Trace.course, Result.map_eq_ok_iff]
  simp

theorem walk_of_passing (passing : ∀ n ∈ nodes, n.outcome = .ok ()) :
    walk warnings nodes = ⟨Node.logged warnings nodes, .ok ()⟩ := by
  induction nodes with
  | nil =>
    rw [Node.logged_nil]
    rfl
  | cons n rest ih =>
    obtain ⟨first, later⟩ := List.forall_mem_cons.mp passing
    rw [walk, ih later, Node.visit, first, Trace.bind_of_ok _ rfl, ← Node.logged_append]
    rfl

theorem walk_of_failing (passing : ∀ m ∈ before, m.outcome = .ok ())
    (failing : n.outcome = .error failure) : walk warnings (before ++ n :: after) =
      ⟨Node.logged warnings (before ++ [n]), .error failure⟩ := by
  rw [walk_append, walk_of_passing passing, walk, Node.visit, failing, Trace.bind_of_ok _ rfl,
    Trace.bind_of_error _ rfl, Node.logged_append]

/-- Nodes either all pass, or there is a first one that fails. -/
theorem passing_or_failing (nodes : List Node) : (∀ n ∈ nodes, n.outcome = .ok ()) ∨
    ∃ before n after failure, nodes = before ++ n :: after ∧ (∀ m ∈ before, m.outcome = .ok ()) ∧
      n.outcome = .error failure := by
  induction nodes with
  | nil => exact .inl (List.forall_mem_nil _)
  | cons n rest ih =>
    cases own : n.outcome with
    | error failure => exact .inr ⟨[], n, rest, failure, rfl, List.forall_mem_nil _, own⟩
    | ok _ =>
      rcases ih with passing | ⟨before, m, after, failure, rfl, passing, failing⟩
      · exact .inl (List.forall_mem_cons.mpr ⟨own, passing⟩)
      · exact .inr ⟨n :: before, m, after, failure, rfl, List.forall_mem_cons.mpr ⟨own, passing⟩, failing⟩

end Lowering

end SearchFilter
