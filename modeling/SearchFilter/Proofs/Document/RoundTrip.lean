import SearchFilter.Proofs.Condition.Shape
import SearchFilter.Proofs.Document.Reading
import SearchFilter.Proofs.Tree

namespace SearchFilter

theorem Operator.read_name (op : Operator) : read (.text op.name) = .ok op := by
  cases op <;> rfl

theorem Conjunction.read_name (conjunction : Conjunction) :
    read (.text conjunction.name) = .ok conjunction := by
  cases conjunction <;> rfl

namespace Condition

theorem compose_of_accepted {c : Condition} (accepted : c.Accepted) :
    compose (.text c.field) (.text c.operator.name) (listed c.value) = .ok c := by
  have shaped := accepted_iff_wellShaped.mp accepted
  have named : fieldName? (.text c.field) = some c.field :=
    fieldName?_eq_some_iff.mpr ⟨rfl, shaped.named⟩
  exact compose_eq_ok_iff.mpr
    ⟨Operator.read_name c.operator, make_eq_ok_iff.mpr ⟨named, rfl, fit_listed shaped.fits⟩⟩

end Condition

namespace Document

variable {path : Path}

theorem entry_toDocument_leaf {c : Condition} (accepted : c.Accepted) :
    entry path c.toDocument = .ok (.leaf c) := by
  have single : isGroup [(.text "field", .text c.field), (.text "operator", .text c.operator.name),
      (.text "value", Condition.listed c.value)] = false := rfl
  have found : Value.lookup? "field" [(.text "field", .text c.field),
      (.text "operator", .text c.operator.name), (.text "value", Condition.listed c.value)] =
      some (.text c.field) := rfl
  refine (entry_leaf single).trans ((leaf_of_field found).trans ?_)
  exact congrArg (Except.map Tree.leaf) (Condition.compose_of_accepted accepted)

theorem itemsFrom_toDocument {index : Nat} {trees : List Tree}
    (each : ∀ t ∈ trees, ∀ path, entry path t.toDocument = .ok t) :
    itemsFrom path index (trees.map Tree.toDocument) = .ok trees := by
  induction trees generalizing index with
  | nil => rfl
  | cons t rest ih =>
    have head := each t List.mem_cons_self (path ++ [index])
    have tail : itemsFrom path (index + 1) (rest.map Tree.toDocument) = .ok rest :=
      ih fun other member => each other (List.mem_cons_of_mem _ member)
    simp [itemsFrom, head, tail]

theorem group_toDocument {conjunction : Conjunction} {members : List Tree}
    (each : ∀ t ∈ members, ∀ path, entry path t.toDocument = .ok t) :
    group path [(.text "conjunction", .text conjunction.name),
      (.text "conditions", .list (Tree.toDocuments members))] = .ok ⟨conjunction, members⟩ := by
  refine group_eq_ok_iff.mpr ⟨members.map Tree.toDocument, ?_, Conjunction.read_name conjunction,
    itemsFrom_toDocument each⟩
  rw [Tree.toDocuments_eq_map]
  rfl

theorem entry_toDocument {t : Tree} (accepted : ∀ c ∈ t.conditions, c.Accepted) :
    entry path t.toDocument = .ok t := by
  induction t generalizing path with
  | leaf c => exact entry_toDocument_leaf (Tree.forall_conditions_leaf.mp accepted)
  | group conjunction members ih =>
    have keyed : isGroup [(.text "conjunction", .text conjunction.name),
        (.text "conditions", .list (Tree.toDocuments members))] = true := rfl
    have each := Tree.forall_conditionsOf.mp accepted
    refine (entry_group keyed).trans ?_
    rw [group_toDocument fun t member path => ih t member (each t member)]
    rfl

theorem accepted_of_group {entries : List (Value × Value)} {g : Group}
    (each : ∀ items, items? entries = some items → ∀ item ∈ items, ∀ path t,
      entry path item = .ok t → ∀ c ∈ t.conditions, c.Accepted)
    (read : group path entries = .ok g) : ∀ c ∈ g.conditions, c.Accepted := by
  obtain ⟨items, listed, _, members⟩ := group_eq_ok_iff.mp read
  refine Tree.forall_conditionsOf.mpr fun t member => ?_
  obtain ⟨item, present, itemPath, made⟩ := exists_entry_of_itemsFrom members member
  exact each items listed item present itemPath t made

theorem accepted_of_entry {item : Value} {t : Tree} (read : entry path item = .ok t) :
    ∀ c ∈ t.conditions, c.Accepted := by
  induction item using induct generalizing path t with
  | step item ih =>
    obtain ⟨entries, rfl, ⟨_, g, made, rfl⟩ | ⟨_, field, c, _, made, rfl⟩⟩ :=
      entry_eq_ok_iff.mp read
    · exact accepted_of_group
        (fun items listed item member _ _ found => ih entries items rfl listed item member found) made
    · exact Tree.forall_conditions_leaf.mpr (Condition.accepted_of_compose made)

end Document

namespace Group

variable {document : Value} {g : Group}

theorem accepted_of_ofDocument (read : ofDocument document = .ok g) :
    ∀ c ∈ g.conditions, c.Accepted := by
  cases document with
  | map entries =>
    exact Document.accepted_of_group
      (fun _ _ _ _ _ _ found => Document.accepted_of_entry found) read
  | _ => cases read

/-- The document of a group of accepted conditions is read as that group. -/
theorem ofDocument_toDocument (accepted : ∀ c ∈ g.conditions, c.Accepted) :
    ofDocument g.toDocument = .ok g :=
  Document.group_toDocument fun t member _ =>
    Document.entry_toDocument (Tree.forall_conditionsOf.mp accepted t member)

end Group

end SearchFilter
