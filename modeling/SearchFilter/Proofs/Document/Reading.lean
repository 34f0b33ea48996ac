import SearchFilter.Tree.Document
import SearchFilter.Proofs.Result
import SearchFilter.Proofs.Value.Lookup

namespace SearchFilter.Document

variable {path : Path} {index : Nat} {entries : List (Value × Value)} {items : List Value}
  {document item : Value} {t : Tree} {trees : List Tree} {g : Group} {c : Condition} {r : Refusal}

/-- The items that a group lists; without an entry for conditions it lists none. -/
def items? (entries : List (Value × Value)) : Option (List Value) :=
  match Value.lookup? conditionsKey entries with
  | none => some []
  | some (.list items) => some items
  | some _ => none

/-- The value under a name, where a missing one counts as no value. -/
def given (name : String) (entries : List (Value × Value)) : Value :=
  (Value.lookup? name entries).getD .null

/-- A group out of the entries of its mapping. -/
def group (path : Path) (entries : List (Value × Value)) : Except Refusal Group := do
  let conjunction ← header path entries
  let members ← conditions path entries
  .ok ⟨conjunction, members⟩

theorem entry_group (keyed : isGroup entries = true) :
    entry path (.map entries) = (group path entries).map Group.toTree := by
  rw [entry, if_pos keyed, group]
  cases header path entries with
  | error refusal => rfl
  | ok conjunction => cases conditions path entries <;> rfl

theorem entry_leaf (single : isGroup entries = false) :
    entry path (.map entries) = leaf path entries := by
  rw [entry, if_neg (by simp [single])]

/-- The items of a group are none without an entry for conditions, and else those of its list. -/
theorem items?_eq_some_iff : items? entries = some items ↔
    (Value.lookup? conditionsKey entries = none ∧ items = []) ∨
      Value.lookup? conditionsKey entries = some (.list items) := by
  unfold items?
  cases Value.lookup? conditionsKey entries with
  | none => simp [eq_comm]
  | some value => cases value <;> simp

theorem conditions_eq_elim : conditions path entries =
    (Value.lookup? conditionsKey entries).elim (.ok []) (members path) := by
  induction entries with
  | nil => rfl
  | cons first rest ih =>
    obtain ⟨key, value⟩ := first
    cases key with
    | text name =>
      by_cases same : name = conditionsKey
      · subst same
        simp [conditions, listed?]
      · rw [Value.lookup?_cons_ne (by simpa using same)]
        simpa [conditions, listed?, same] using ih
    | _ =>
      rw [Value.lookup?_cons_ne (by simp)]
      simpa [conditions, listed?] using ih

theorem conditions_of_items? (listed : items? entries = some items) :
    conditions path entries = itemsFrom path 0 items := by
  rw [conditions_eq_elim]
  rcases items?_eq_some_iff.mp listed with ⟨absent, rfl⟩ | found
  · rw [absent]
    rfl
  · rw [found]
    rfl

theorem header_of_items? (listed : items? entries = some items) :
    header path entries = Conjunction.read (given conjunctionKey entries) := by
  rcases items?_eq_some_iff.mp listed with ⟨absent, rfl⟩ | found
  · simp only [header, absent, given]
    cases Conjunction.read ((Value.lookup? conjunctionKey entries).getD .null) <;> rfl
  · simp only [header, found, given]
    cases Conjunction.read ((Value.lookup? conjunctionKey entries).getD .null) <;> rfl

theorem header_of_no_items? (unlisted : items? entries = none) :
    header path entries = .error (.malformed (.conditionsNoList path)) := by
  unfold items? at unlisted
  unfold header
  cases found : Value.lookup? conditionsKey entries with
  | none => simp [found] at unlisted
  | some value => cases value <;> simp_all

/-- A group is read exactly if its items are listed, its conjunction is known and its items are
read. -/
theorem group_eq_ok_iff : group path entries = .ok g ↔ ∃ items, items? entries = some items ∧
    Conjunction.read (given conjunctionKey entries) = .ok g.conjunction ∧
      itemsFrom path 0 items = .ok g.members := by
  cases listed : items? entries with
  | none => simp [group, header_of_no_items? listed]
  | some items =>
    obtain ⟨conjunction, members⟩ := g
    rw [group, header_of_items? listed, conditions_of_items? listed]
    cases Conjunction.read (given conjunctionKey entries) with
    | error cause => simp
    | ok known => cases read : itemsFrom path 0 items <;> simp [read]

theorem leaf_of_field {field : Value} (found : Value.lookup? "field" entries = some field) :
    leaf path entries =
      (Condition.compose field (given "operator" entries) (given "value" entries)).map .leaf := by
  unfold leaf given
  simp only [found]
  cases Condition.compose field ((Value.lookup? "operator" entries).getD .null)
    ((Value.lookup? "value" entries).getD .null) <;> rfl

theorem leaf_of_no_field (missing : Value.lookup? "field" entries = none) :
    leaf path entries = .error (.malformed (.fieldMissing path)) := by
  simp only [leaf, missing]

theorem entry_eq_ok_iff : entry path item = .ok t ↔ ∃ entries, item = .map entries ∧
    ((isGroup entries = true ∧ ∃ g, group path entries = .ok g ∧ t = g.toTree) ∨
      (isGroup entries = false ∧ ∃ field c, Value.lookup? "field" entries = some field ∧
        Condition.compose field (given "operator" entries) (given "value" entries) = .ok c ∧
          t = .leaf c)) := by
  constructor
  · intro read
    cases item with
    | map entries =>
      refine ⟨entries, rfl, ?_⟩
      cases kind : isGroup entries with
      | true =>
        rw [entry_group kind] at read
        obtain ⟨g, made, same⟩ := Result.map_eq_ok_iff.mp read
        exact .inl ⟨rfl, g, made, same.symm⟩
      | false =>
        rw [entry_leaf kind] at read
        cases found : Value.lookup? "field" entries with
        | none =>
          rw [leaf_of_no_field found] at read
          cases read
        | some field =>
          rw [leaf_of_field found] at read
          obtain ⟨c, made, same⟩ := Result.map_eq_ok_iff.mp read
          exact .inr ⟨rfl, field, c, rfl, made, same.symm⟩
    | _ => cases read
  · rintro ⟨entries, rfl, ⟨keyed, g, made, rfl⟩ | ⟨single, field, c, found, made, rfl⟩⟩
    · rw [entry_group keyed, made, Result.map_ok]
    · rw [entry_leaf single, leaf_of_field found, made, Result.map_ok]

theorem exists_entry_of_itemsFrom (read : itemsFrom path index items = .ok trees) (member : t ∈ trees) :
    ∃ item ∈ items, ∃ path, entry path item = .ok t := by
  induction items generalizing index trees with
  | nil =>
    cases read
    cases member
  | cons item rest ih =>
    obtain ⟨first, head, tail⟩ := Result.bind_eq_ok_iff.mp read
    obtain ⟨later, others, made⟩ := Result.bind_eq_ok_iff.mp tail
    cases made
    rcases List.mem_cons.mp member with rfl | member
    · exact ⟨item, List.mem_cons_self, path ++ [index], head⟩
    · obtain ⟨item, present, found⟩ := ih others member
      exact ⟨item, List.mem_cons_of_mem _ present, found⟩

theorem entry_isOk_of_itemsFrom (read : itemsFrom path index items = .ok trees) {i : Nat}
    (found : items[i]? = some item) : ∃ t, entry (path ++ [index + i]) item = .ok t := by
  induction items generalizing index trees i with
  | nil => simp at found
  | cons first rest ih =>
    obtain ⟨t, head, tail⟩ := Result.bind_eq_ok_iff.mp read
    obtain ⟨later, others, _⟩ := Result.bind_eq_ok_iff.mp tail
    cases i with
    | zero =>
      cases found
      exact ⟨t, head⟩
    | succ i =>
      have place : index + (i + 1) = index + 1 + i := by omega
      rw [place]
      exact ih others found

/-- If items are refused, then for one of them, before which all are read. -/
theorem entry_of_itemsFrom_refused (refused : itemsFrom path index items = .error r) :
    ∃ i item, items[i]? = some item ∧ entry (path ++ [index + i]) item = .error r ∧
      ∀ j < i, ∀ earlier, items[j]? = some earlier →
        ∃ t, entry (path ++ [index + j]) earlier = .ok t := by
  induction items generalizing index with
  | nil => cases refused
  | cons first rest ih =>
    rcases Result.bind_eq_error_iff.mp refused with head | ⟨t, head, tail⟩
    · exact ⟨0, first, rfl, head, fun j before => absurd before (Nat.not_lt_zero j)⟩
    · rcases Result.bind_eq_error_iff.mp tail with others | ⟨_, _, made⟩
      · obtain ⟨i, item, found, refusal, earlier⟩ := ih others
        have place : ∀ j, index + 1 + j = index + (j + 1) := fun j => by omega
        simp only [place] at refusal earlier
        refine ⟨i + 1, item, found, refusal, ?_⟩
        rintro (_ | j) before other present
        · cases present
          exact ⟨t, head⟩
        · exact earlier j (by omega) other present
      · cases made

theorem itemsFrom_isOk_of_entries (each : ∀ item ∈ items, ∀ path, ∃ t, entry path item = .ok t) :
    ∃ trees, itemsFrom path index items = .ok trees := by
  induction items generalizing index with
  | nil => exact ⟨[], rfl⟩
  | cons first rest ih =>
    obtain ⟨t, head⟩ := each first List.mem_cons_self (path ++ [index])
    obtain ⟨trees, tail⟩ : ∃ trees, itemsFrom path (index + 1) rest = .ok trees :=
      ih fun item member => each item (List.mem_cons_of_mem _ member)
    exact ⟨t :: trees, by simp [itemsFrom, head, tail]⟩

theorem sizeOf_lt_of_items? (listed : items? entries = some items) (member : item ∈ items) :
    sizeOf item < sizeOf (Value.map entries) := by
  rcases items?_eq_some_iff.mp listed with ⟨absent, rfl⟩ | found
  · cases member
  · exact Nat.lt_trans (Value.sizeOf_lt_of_mem_list member) (Value.sizeOf_lt_of_lookup? found)

/-- What holds of a document if it holds of the items that it lists, holds of all documents. -/
theorem induct {motive : Value → Prop}
    (step : ∀ document, (∀ entries items, document = .map entries → items? entries = some items →
      ∀ item ∈ items, motive item) → motive document) (document : Value) : motive document :=
  step document fun entries items made listed item member =>
    have : sizeOf item < sizeOf document := made ▸ sizeOf_lt_of_items? listed member
    induct step item
termination_by sizeOf document

end SearchFilter.Document
