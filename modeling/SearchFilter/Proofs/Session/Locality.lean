import SearchFilter.Proofs.Session.Attained
import SearchFilter.Proofs.Store.Following

/-!
Shared groups in a session. A group is lowered and written with what is in its members at that moment,
wherever they occur, and a call that changes a group is not seen from any group that does not reach it.
-/

namespace SearchFilter

/-- The group whose members a call changes, if it succeeds. -/
def Call.goal? (root : GroupId) : Call → Option GroupId
  | .condition on _ _ _ | .add on _ | .setMembers on _ => some (on.getD root)
  | _ => none

theorem Call.goal?_of_addition? {call : Call} {root goal : GroupId} {m : Member}
    (adds : call.addition? root = some (goal, m)) : call.goal? root = some goal := by
  cases call with
  | condition on field operator value =>
    cases field with
    | group inner =>
      cases adds
      rfl
    | condition c => cases adds
    | value field =>
      cases composed : Condition.compose field operator value with
      | error refusal => simp [Call.addition?, composed] at adds
      | ok c =>
        simp only [Call.addition?, composed] at adds
        cases adds
        rfl
  | add on member =>
    cases member with
    | value v => cases adds
    | group inner | condition c =>
      cases adds
      rfl
  | _ => cases adds

theorem Call.goal?_of_assigns {call : Call} {root id : GroupId} (assigns : call.Assigns root id) :
    call.goal? root = some id := by
  cases call with
  | setMembers on members => exact congrArg some assigns
  | _ => cases assigns

namespace Store

variable {s changed : Store} {id : GroupId} {g : Group}

/-- A group is lowered and written as its tree is, with equal pieces for all occurrences of a group. -/
structure LateBound (s : Store) (id : GroupId) (g : Group) : Prop where
  tree : s.tree? id = some g
  lowered : ∀ warnings, s.lower warnings id = g.lower warnings
  written : s.document? id = some g.toDocument
  occurrences : ∀ warnings q, (s.lower warnings id).result = .ok q → ∃ cell pieces,
    s.cell? id = some cell ∧ q = .ofPieces cell.conjunction pieces ∧
      List.Forall₂ (s.PieceOf warnings) cell.members pieces

/-- A group has the same tree in two stores, and is lowered and written alike, however deep groups may
be inside one another. -/
structure AlikeAt (s changed : Store) (id : GroupId) : Prop where
  tree : changed.tree? id = s.tree? id
  lowered : ∀ warnings depth, changed.lowerWithin warnings depth id = s.lowerWithin warnings depth id
  written : ∀ depth, changed.documentWithin? depth id = s.documentWithin? depth id
  settled : (∃ g, s.tree? id = some g) → changed.document? id = s.document? id ∧
    ∀ warnings, changed.lower warnings id = s.lower warnings id

theorem lateBound_of_tree? (known : s.tree? id = some g) : s.LateBound id g where
  tree := known
  lowered _ := lower_of_tree? known
  written := document?_of_tree? known
  occurrences _ q lowered := by
    obtain ⟨cell, found, _, _⟩ := denotes_group_iff.mp (tree?_eq_some_iff.mp known)
    obtain ⟨pieces, same, each⟩ := pieces_of_lower found known lowered
    exact ⟨cell, pieces, found, same, each⟩

theorem AgreeBelow.alikeAt (agree : s.AgreeBelow changed id) : s.AlikeAt changed id where
  tree := agree.tree?_eq
  lowered _ := agree.follow_eq confined_lowerCell
  written := agree.follow_eq confined_cellDocument?
  settled := by
    rintro ⟨g, known⟩
    have still : changed.tree? id = some g := agree.tree?_eq.trans known
    refine ⟨?_, fun warnings => ?_⟩
    · rw [document?_of_tree? still, document?_of_tree? known]
    · rw [lower_of_tree? still, lower_of_tree? known]

end Store

namespace Session

variable {s : Session} {call : Call} {id : GroupId} {cell : Cell}

/-- A call leaves every group as it is but the one that it changes. -/
theorem cell?_perform_of_other (found : s.groups.cell? id = some cell)
    (other : call.goal? s.query.root ≠ some id) : (s.perform call).1.groups.cell? id = some cell := by
  obtain ⟨⟨conjunction, members⟩, still, same, grown⟩ := cell?_perform call found
  have only : ∀ c ∈ s.completed call, c = call := by
    intro c member
    unfold completed at member
    split at member
    · exact List.mem_singleton.mp member
    · cases member
  have unassigned : ∀ c ∈ s.completed call, ¬ c.Assigns s.query.root id := by
    intro c member assigns
    cases only c member
    exact other (Call.goal?_of_assigns assigns)
  have nothing : (s.completed call).filterMap (Call.addedTo? s.query.root id) = [] := by
    refine List.filterMap_eq_nil_iff.mpr fun c member => ?_
    cases only c member
    unfold Call.addedTo?
    cases adds : call.addition? s.query.root with
    | none => rfl
    | some pair =>
      obtain ⟨goal, m⟩ := pair
      refine if_neg fun same => other ?_
      rw [Call.goal?_of_addition? adds, same]
  have kept := grown unassigned
  rw [nothing, List.append_nil] at kept
  cases cell
  cases same
  cases kept
  exact still

/-- From a group that does not reach the one that a call changes, all is as before. -/
theorem agreeBelow_perform (closed : s.groups.Closed) (there : id < s.groups.cells.length)
    (apart : ∀ goal, call.goal? s.query.root = some goal → ¬ s.groups.Reaches id goal) :
    s.groups.AgreeBelow (s.perform call).1.groups id := by
  intro inner path
  have inside : inner < s.groups.cells.length := Store.lt_of_reaches closed there path
  have found : s.groups.cell? inner = some _ := List.getElem?_eq_getElem inside
  rw [found]
  exact cell?_perform_of_other found fun goal => apart inner goal path

/-- In a session without a group inside itself every group is lowered and written as its tree with the
present members in place of references, and so is the query. In any session a call is not seen from a
group that does not reach the one that the call changes. -/
theorem lateBound_and_confined (attained : s.Attained) :
    (s.groups.Acyclic →
      (∀ id < s.groups.cells.length, ∃ g, s.groups.LateBound id g) ∧
      ∃ g, s.groups.LateBound s.query.root g ∧ s.query.request s.groups = s.query.requestOf g) ∧
    ∀ call, ∀ id < s.groups.cells.length,
      (∀ goal, call.goal? s.query.root = some goal → ¬ s.groups.Reaches id goal) →
        s.groups.AlikeAt (s.perform call).1.groups id := by
  have grounded := attained.grounded
  refine ⟨fun acyclic => ?_, fun call id there apart =>
    (agreeBelow_perform grounded.closed there apart).alikeAt⟩
  have bound : ∀ id < s.groups.cells.length, ∃ g, s.groups.LateBound id g := fun id there =>
    (Store.exists_tree?_of_acyclic grounded.closed acyclic there).imp
      fun _ => Store.lateBound_of_tree?
  obtain ⟨g, root⟩ := bound s.query.root grounded.rooted
  refine ⟨bound, g, root, ?_⟩
  rw [Query.request, root.tree]

theorem lateBound_and_confined_shared :
    (∃ g, (overNodes.run sharedCalls).groups.LateBound 0 g ∧
      g.members = [.group .and [.leaf ⟨"body", .isNull, .null⟩],
        .group .or [.group .and [.leaf ⟨"body", .isNull, .null⟩]]]) ∧
    (overNodes.run sharedCalls).groups.AlikeAt
      ((overNodes.run sharedCalls).perform
        (.condition (some 1) (.value (.text "status")) .null (.int 1))).1.groups 2 := by
  have attained := attained_run_shared
  have trees : ∀ id < (overNodes.run sharedCalls).groups.cells.length,
      ∃ g, (overNodes.run sharedCalls).groups.tree? id = some g := by
    intro id bound
    match id, bound with
    | 0, _ => exact ⟨_, rfl⟩
    | 1, _ => exact ⟨_, rfl⟩
    | 2, _ => exact ⟨_, rfl⟩
    | id + 3, bound =>
      have past : id + 3 < 3 := bound
      omega
  have acyclic := (Store.acyclic_iff_trees attained.grounded.closed).mpr trees
  obtain ⟨bound, _⟩ := (lateBound_and_confined attained).1 acyclic
  refine ⟨?_, (lateBound_and_confined attained).2 _ 2 (by decide) ?_⟩
  · obtain ⟨g, root⟩ := bound 0 (by decide)
    cases root.tree
    exact ⟨_, root, rfl⟩
  · rintro _ ⟨rfl⟩ path
    -- the second group has no member that is a group
    rcases Relation.ReflTransGen.cases_head path with same | ⟨inner, ⟨cell, found, member⟩, _⟩
    · cases same
    · cases found
      cases member with
      | tail _ later => cases later

end Session

end SearchFilter
