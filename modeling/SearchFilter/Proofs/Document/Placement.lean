import SearchFilter.Proofs.Document.Defect
import SearchFilter.Proofs.Tree

/-!
Where the entries of a document end up. Reading keeps positions: the condition at the end of a path
through the members of the tree was made of the entry at the end of the same path through the document.
Main statement: an entry with a field, and without the keys of a group, becomes the condition at its own
position, or the document is refused.
-/

namespace SearchFilter

namespace Tree

/-- The members of a tree: those of a group, and none of a condition. -/
def members : Tree → List Tree
  | .leaf _ => []
  | .group _ members => members

/-- The tree that a path leads to, from member to member. -/
def at? : Tree → Path → Option Tree
  | t, [] => some t
  | t, i :: path => t.members[i]?.bind fun m => m.at? path

end Tree

namespace Document

variable {path place : Path} {index i : Nat} {entries : List (Value × Value)} {items : List Value}
  {document item : Value} {t found : Tree} {trees : List Tree} {g : Group} {c : Condition}

/-- An entry of a document, at the end of the path to it: an item that the root lists, or one of the
groups that are reached from it. -/
def Entry (document : Value) (path : Path) (item : Value) : Prop :=
  ∃ n i, (Node.group [] document).Within n ∧ n.items[i]? = some item ∧ path = n.path ++ [i]

theorem getElem?_itemsFrom (read : itemsFrom path index items = .ok trees) (i : Nat) :
    (items[i]? = none ∧ trees[i]? = none) ∨ ∃ item t, items[i]? = some item ∧ trees[i]? = some t ∧
      entry (path ++ [index + i]) item = .ok t := by
  induction items generalizing index trees i with
  | nil =>
    cases read
    exact .inl ⟨rfl, rfl⟩
  | cons first rest ih =>
    obtain ⟨t, head, tail⟩ := Result.bind_eq_ok_iff.mp read
    obtain ⟨later, others, made⟩ := Result.bind_eq_ok_iff.mp tail
    cases made
    cases i with
    | zero => exact .inr ⟨first, t, rfl, rfl, head⟩
    | succ i =>
      have place : index + (i + 1) = index + 1 + i := by omega
      rw [place]
      exact ih others i

namespace Node

variable {n m : Node}

/-- What a node is read as: a group as the group of its entries, and an entry that is none as the
condition of its three parts. -/
def ReadAs : Node → Tree → Prop
  | group path value, t =>
    ∃ entries g, value = .map entries ∧ Document.group path entries = .ok g ∧ t = g.toTree
  | leaf _ value, t => ∃ entries field c, value = .map entries ∧
    Value.lookup? "field" entries = some field ∧
      Condition.compose field (given "operator" entries) (given "value" entries) = .ok c ∧ t = .leaf c

theorem readAs_ofItem (read : entry place item = .ok t) : (ofItem place item).ReadAs t := by
  obtain ⟨entries, rfl, ⟨keyed, g, made, rfl⟩ | ⟨single, field, c, found, made, rfl⟩⟩ :=
    entry_eq_ok_iff.mp read
  · rw [ofItem_group keyed]
    exact ⟨entries, g, rfl, made, rfl⟩
  · rw [ofItem_leaf single]
    exact ⟨entries, field, c, rfl, found, made, rfl⟩

theorem readAs_root (read : Group.ofDocument document = .ok g) :
    (group [] document).ReadAs g.toTree := by
  cases document with
  | map entries => exact ⟨entries, g, rfl, read, rfl⟩
  | _ => cases read

theorem ReadAs.member (readAs : n.ReadAs t) (i : Nat) :
    (n.items[i]? = none ∧ t.members[i]? = none) ∨ ∃ item inner, n.items[i]? = some item ∧
      t.members[i]? = some inner ∧ (ofItem (n.path ++ [i]) item).ReadAs inner := by
  cases n with
  | leaf path value =>
    obtain ⟨entries, field, c, rfl, _, _, rfl⟩ := readAs
    exact .inl ⟨rfl, rfl⟩
  | group path value =>
    obtain ⟨entries, g, rfl, made, rfl⟩ := readAs
    obtain ⟨items, listed, _, read⟩ := group_eq_ok_iff.mp made
    rw [items_group listed]
    rcases getElem?_itemsFrom read i with none | ⟨item, t, present, origin, made⟩
    · exact .inl none
    · rw [Nat.zero_add] at made
      exact .inr ⟨item, t, present, origin, readAs_ofItem made⟩

/-- A node within another is read as the tree at the end of the path that leads on to it. -/
theorem ReadAs.at_path (readAs : n.ReadAs t) (within : n.Within m) :
    ∃ rest found, m.path = n.path ++ rest ∧ t.at? rest = some found ∧ m.ReadAs found := by
  induction within generalizing t with
  | self n => exact ⟨[], t, (List.append_nil _).symm, rfl, readAs⟩
  | @item n m i item present below ih =>
    rcases readAs.member i with ⟨absent, _⟩ | ⟨other, inner, again, origin, readInner⟩
    · cases absent.symm.trans present
    · cases present.symm.trans again
      obtain ⟨rest, found, same, reached, readFound⟩ := ih readInner
      refine ⟨i :: rest, found, ?_, ?_, readFound⟩
      · rw [same, path_ofItem, List.append_assoc, List.singleton_append]
      · rw [Tree.at?, origin, Option.bind_some, reached]

/-- The tree at the end of a path was read out of a node at the end of that path. -/
theorem ReadAs.exists_node {rest : Path} (readAs : n.ReadAs t) (reached : t.at? rest = some found) :
    ∃ m, n.Within m ∧ m.path = n.path ++ rest ∧ m.ReadAs found := by
  induction rest generalizing n t with
  | nil =>
    cases reached
    exact ⟨n, .self n, (List.append_nil _).symm, readAs⟩
  | cons i rest ih =>
    obtain ⟨inner, origin, reached⟩ := Option.bind_eq_some_iff.mp reached
    rcases readAs.member i with ⟨_, absent⟩ | ⟨item, other, present, again, readInner⟩
    · cases absent.symm.trans origin
    · cases origin.symm.trans again
      obtain ⟨m, below, same, readFound⟩ := ih readInner reached
      refine ⟨m, .item present below, ?_, readFound⟩
      rw [same, path_ofItem, List.append_assoc, List.singleton_append]

theorem Within.entry (within : n.Within m) (present : m.items[i]? = some item) :
    n.Within (ofItem (m.path ++ [i]) item) := by
  induction within with
  | self n => exact .item present (.self _)
  | item found below ih => exact .item found (ih present)

/-- Whatever is reached is the start, or an entry of a node that is reached. -/
theorem Within.cases_last (within : n.Within m) : m = n ∨
    ∃ k i item, n.Within k ∧ k.items[i]? = some item ∧ m = ofItem (k.path ++ [i]) item := by
  induction within with
  | self n => exact .inl rfl
  | @item n m i item found below ih =>
    rcases ih with rfl | ⟨k, j, other, reached, present, rfl⟩
    · exact .inr ⟨n, i, item, .self n, found, rfl⟩
    · exact .inr ⟨k, j, other, .item found reached, present, rfl⟩

theorem Defect.of_unsupported {cause : Unsupported} (defect : n.Defect (.unsupported cause)) :
    ∃ path entries, n = leaf path (.map entries) ∧
      Operator.read (given "operator" entries) = .error (.unsupported cause) := by
  generalize same : Refusal.unsupported cause = r at defect
  cases defect with
  | noMapping | noList | noEntry | noField => cases same
  | conjunction listed unknown =>
    cases same
    exact absurd unknown Conjunction.read_ne_unsupported
  | operator found unknown =>
    cases same
    exact ⟨_, _, rfl, unknown⟩
  | field found known blank =>
    exact absurd same.symm Malformed.refusal_ne_unsupported
  | value found known named unfit =>
    cases same
    exact absurd unfit Condition.fit_ne_unsupported

end Node

theorem isGroup_of_ofItem_leaf (same : Node.ofItem place item = .leaf path (.map entries)) :
    place = path ∧ item = .map entries ∧ isGroup entries = false := by
  unfold Node.ofItem at same
  split at same
  · next others =>
    cases kind : isGroup others with
    | true => simp [kind] at same
    | false =>
      simp only [kind, Bool.false_eq_true, if_false] at same
      cases same
      exact ⟨rfl, rfl, kind⟩
  · cases same
    next none => exact absurd rfl (none entries)

theorem within_leaf_iff : (Node.group [] document).Within (.leaf path (.map entries)) ↔
    Entry document path (.map entries) ∧ isGroup entries = false := by
  constructor
  · intro within
    rcases within.cases_last with same | ⟨n, i, item, reached, present, same⟩
    · cases same
    · obtain ⟨rfl, rfl, single⟩ := isGroup_of_ofItem_leaf same.symm
      exact ⟨⟨n, i, reached, present, rfl⟩, single⟩
  · rintro ⟨⟨n, i, reached, present, rfl⟩, single⟩
    exact Node.ofItem_leaf single ▸ reached.entry present

/-- In the tree of a document there is a condition at a path exactly if the document has an entry there,
without the keys of a group, whose parts make it. -/
theorem at?_leaf_iff (read : Group.ofDocument document = .ok g) :
    g.toTree.at? path = some (.leaf c) ↔ ∃ entries field, Entry document path (.map entries) ∧
      isGroup entries = false ∧ Value.lookup? "field" entries = some field ∧
        Condition.compose field (given "operator" entries) (given "value" entries) = .ok c := by
  have root := Node.readAs_root read
  constructor
  · intro reached
    obtain ⟨m, within, same, readAs⟩ := root.exists_node reached
    rw [Node.path, List.nil_append] at same
    cases m with
    | group place value =>
      obtain ⟨_, _, _, _, foreign⟩ := readAs
      cases foreign
    | leaf place value =>
      obtain ⟨entries, field, made, rfl, found, composed, leaf⟩ := readAs
      cases same
      cases leaf
      obtain ⟨listed, single⟩ := within_leaf_iff.mp within
      exact ⟨entries, field, listed, single, found, composed⟩
  · rintro ⟨entries, field, listed, single, found, composed⟩
    obtain ⟨rest, t, same, reached, readAs⟩ := root.at_path (within_leaf_iff.mpr ⟨listed, single⟩)
    rw [Node.path, Node.path, List.nil_append] at same
    obtain ⟨_, _, made, own, again, others, rfl⟩ := readAs
    cases own
    cases found.symm.trans again
    cases composed.symm.trans others
    rw [same, reached]

/-- In a document that is read the parts of every entry with a field make a condition, if it has no key
of a group. -/
theorem compose_of_entry {field : Value} (read : Group.ofDocument document = .ok g)
    (listed : Entry document path (.map entries)) (single : isGroup entries = false)
    (found : Value.lookup? "field" entries = some field) :
    ∃ c, Condition.compose field (given "operator" entries) (given "value" entries) = .ok c := by
  obtain ⟨_, _, _, _, _, _, c, own, again, composed, _⟩ :=
    (Node.readAs_root read).at_path (within_leaf_iff.mpr ⟨listed, single⟩)
  cases own
  cases found.symm.trans again
  exact ⟨c, composed⟩

/-- A document that is refused is malformed, or has an entry with an unknown operator, if all of its
values can be written out. -/
theorem refusal_cases {r : Refusal} (refused : Group.ofDocument document = .error r)
    (written : document.isWritable = true) :
    (∃ cause, r = .malformed cause) ∨ ∃ cause place entries, r = .unsupported cause ∧
      Entry document place (.map entries) ∧
        Operator.read (given "operator" entries) = .error (.unsupported cause) := by
  have reports : (Node.group [] document).Reports (Group.ofDocument document) :=
    Node.reports_ofDocument
  rw [refused] at reports
  obtain ⟨n, first⟩ := reports
  cases r with
  | malformed cause => exact .inl ⟨cause, rfl⟩
  | unsupported cause =>
    obtain ⟨place, entries, rfl, unknown⟩ := first.defect.of_unsupported
    exact .inr ⟨cause, place, entries, rfl, (within_leaf_iff.mp first.within).1, unknown⟩
  | unwritable check => cases first.defect.isTold (first.within.isWritable written)

end Document

open Document in
/-- An entry with a field, and without the keys of a group, becomes the condition of that field at its
position in the tree, or the document is refused: as malformed, or for the unknown operator of an entry,
if all values in it can be written out. And no condition stands anywhere else: each is made of the parts of the entry at its own position. -/
theorem Group.ofDocument_keeps_fields (document : Value) :
    (∀ path entries field, Entry document path (.map entries) → isGroup entries = false →
      Value.lookup? "field" entries = some field →
        (∃ g c, ofDocument document = .ok g ∧ g.toTree.at? path = some (.leaf c) ∧
          field.asText? = some c.field) ∨
        ∃ r, ofDocument document = .error r ∧ (document.isWritable = true →
          (∃ cause, r = .malformed cause) ∨
          ∃ cause place others, r = .unsupported cause ∧ Entry document place (.map others) ∧
            Operator.read (given "operator" others) = .error (.unsupported cause))) ∧
    ∀ g path c, ofDocument document = .ok g → g.toTree.at? path = some (.leaf c) →
      ∃ entries field, Entry document path (.map entries) ∧
        Value.lookup? "field" entries = some field ∧
          Condition.compose field (given "operator" entries) (given "value" entries) = .ok c := by
  refine ⟨fun path entries field listed single found => ?_, fun g path c read reached => ?_⟩
  · cases read : ofDocument document with
    | error r => exact .inr ⟨r, rfl, refusal_cases read⟩
    | ok g =>
      obtain ⟨c, composed⟩ := compose_of_entry read listed single found
      have reached := (at?_leaf_iff read).mpr ⟨entries, field, listed, single, found, composed⟩
      obtain ⟨_, made⟩ := Condition.compose_eq_ok_iff.mp composed
      have named := (Condition.make_eq_ok_iff.mp made).1
      exact .inl ⟨g, c, rfl, reached, (Condition.fieldName?_eq_some_iff.mp named).1⟩
  · obtain ⟨entries, field, listed, _, found, composed⟩ := (at?_leaf_iff read).mp reached
    exact ⟨entries, field, listed, found, composed⟩

open Document in
/-- An entry of a group inside another is the condition at its own position. -/
theorem Group.ofDocument_keeps_fields_nested : ∃ g c,
    ofDocument (.map [(.text "conditions", .list [.map [(.text "field", .text "a"),
      (.text "value", .int 1)], .map [(.text "conjunction", .text "or"), (.text "conditions", .list
        [.map [(.text "field", .text "b"), (.text "operator", .text "is null")]])]])]) = .ok g ∧
      g.toTree.at? [1, 0] = some (.leaf c) ∧ c.field = "b" := by
  have kept := (Group.ofDocument_keeps_fields (.map [(.text "conditions", .list [.map [(.text "field",
    .text "a"), (.text "value", .int 1)], .map [(.text "conjunction", .text "or"),
      (.text "conditions", .list [.map [(.text "field", .text "b"),
        (.text "operator", .text "is null")]])]])])).1 [1, 0]
    [(.text "field", .text "b"), (.text "operator", .text "is null")] (.text "b")
    ⟨_, 0, .item (i := 1) rfl (.self _), rfl, rfl⟩ rfl rfl
  rcases kept with ⟨g, c, read, reached, same⟩ | ⟨r, refused, _⟩
  · exact ⟨g, c, read, reached, (Option.some.inj same).symm⟩
  · cases refused

open Document in
/-- A field beside the key of a group is lost: the entry is a group without members, and the document is
read as a filter without conditions. And an entry with an unknown operator is refused for it, not as
malformed. -/
theorem Group.ofDocument_loses_field_of_group :
    (∃ g, ofDocument (.map [(.text "conditions", .list [.map [(.text "field", .text "status"),
        (.text "value", .int 1), (.text "conjunction", .text "AND")]])]) = .ok g ∧
      Entry (.map [(.text "conditions", .list [.map [(.text "field", .text "status"),
        (.text "value", .int 1), (.text "conjunction", .text "AND")]])]) [0]
        (.map [(.text "field", .text "status"), (.text "value", .int 1),
          (.text "conjunction", .text "AND")]) ∧
      g.conditions = []) ∧
    ∃ cause, ofDocument (.map [(.text "conditions", .list [.map [(.text "field", .text "title"),
      (.text "operator", .text "LIKE"), (.text "value", .text "a")]])]) =
        .error (.unsupported cause) :=
  ⟨⟨⟨.and, [.group .and []]⟩, rfl, ⟨_, 0, .self _, rfl, rfl⟩, rfl⟩, ⟨_, rfl⟩⟩

end SearchFilter
