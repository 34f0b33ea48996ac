import SearchFilter.Proofs.Session.Reachable

/-!
The filters of a session as documents. Main statement: whatever calls built a group, its document is
read back as the same filter; and reading, writing and reading a document again gives what the first
reading gave.
-/

namespace SearchFilter.Session

variable {s : Session} {g : Group}

/-- A document that is read in a session gives a new group that stands for what it describes. -/
theorem perform_readGroup {document : Value} (read : Group.ofDocument document = .ok g) :
    ∃ id, (s.perform (.readGroup document)).2.result = .ok (.group id) ∧
      (s.perform (.readGroup document)).1.groups.tree? id = some g := by
  refine ⟨(s.groups.insertGroup g).2, ?_⟩
  simp only [perform, read]
  exact ⟨rfl, Store.tree?_insertGroup⟩

/-- Every group that calls have built stands for a tree whose document is read back as that tree, also
by the session itself. And whatever was read out of some document is read again out of its own. -/
theorem readGroup_toDocument :
    (∀ s : Session, s.Reachable → ∀ id g, s.groups.Denotes (.group id) g.toTree →
      s.groups.tree? id = some g ∧ Group.ofDocument g.toDocument = .ok g ∧
        ∃ copy, (s.perform (.readGroup g.toDocument)).2.result = .ok (.group copy) ∧
          (s.perform (.readGroup g.toDocument)).1.groups.tree? copy = some g) ∧
    ∀ document g, Group.ofDocument document = .ok g → Group.ofDocument g.toDocument = .ok g := by
  refine ⟨fun s reachable id g denotes => ?_, fun document g read => ?_⟩
  · have member : (Member.group id).Sound := trivial
    have accepted : ∀ c ∈ g.conditions, c.Accepted :=
      Store.accepted_of_denotes reachable.sound member denotes
    have read := Group.ofDocument_toDocument accepted
    exact ⟨Store.tree?_eq_some_iff.mpr denotes, read, perform_readGroup read⟩
  · exact Group.ofDocument_toDocument (Group.accepted_of_ofDocument read)

/-- A set of values and a group inside another, built by calls on a new session, and a document that
leaves its conjunction and an operator out. -/
theorem readGroup_toDocument_nested :
    Group.ofDocument (Group.toDocument ⟨.and, [.leaf ⟨"tag", .isIn, .tuple [.text "b", .text "a"]⟩,
      .group .or [.leaf ⟨"body", .isNull, .null⟩]]⟩) =
      .ok ⟨.and, [.leaf ⟨"tag", .isIn, .tuple [.text "b", .text "a"]⟩,
        .group .or [.leaf ⟨"body", .isNull, .null⟩]]⟩ ∧
    Group.ofDocument (Group.toDocument ⟨.and, [.leaf ⟨"size", .eq, .int 3⟩]⟩) =
      .ok ⟨.and, [.leaf ⟨"size", .eq, .int 3⟩]⟩ := by
  have new : Reachable ⟨⟨[⟨.and, []⟩]⟩, ⟨.text "node", 0, [], none, .bool false, .standard⟩, .direct,
      .vacant, true⟩ := .make (show make (.text "node") .null none .direct true = _ from rfl)
  have inner := new.perform (.createGroup (.conjunction .or)) trivial
  have blank := inner.perform
    (.condition (some 1) (.value (.text "body")) (.operator .isNull) .null) trivial
  have tags := blank.perform (.condition none (.value (.text "tag")) (.operator .isIn)
    (.list [.text "b", .text "a"])) trivial
  have nested := tags.perform (.add none (.group 1)) trivial
  refine ⟨(readGroup_toDocument.1 _ nested 0 _ (Store.tree?_eq_some_iff.mp rfl)).2.1, ?_⟩
  exact readGroup_toDocument.2 (.map [(.text "conditions", .list [.map [(.text "field", .text "size"),
    (.text "value", .int 3)]])]) _ rfl

end SearchFilter.Session
