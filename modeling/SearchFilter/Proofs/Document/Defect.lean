import SearchFilter.Proofs.Condition.Refusal
import SearchFilter.Proofs.Document.Grammar

namespace SearchFilter

namespace Document

theorem isWritable_given {name : String} {entries : List (Value × Value)}
    (written : (Value.map entries).isWritable = true) : (given name entries).isWritable = true :=
  Value.isWritable_lookup? written

/-- A place of a document: a group, or an entry that is none. -/
inductive Node
  | group (path : Path) (value : Value)
  | leaf (path : Path) (value : Value)

namespace Node

def path : Node → Path
  | group path _ | leaf path _ => path

def value : Node → Value
  | group _ value | leaf _ value => value

/-- An entry at the end of a path is a group if it has a key of one. -/
def ofItem (path : Path) (item : Value) : Node :=
  match item with
  | .map entries => if isGroup entries then group path item else leaf path item
  | _ => leaf path item

/-- The entries that a group lists. -/
def items : Node → List Value
  | group _ (.map entries) => (items? entries).getD []
  | _ => []

/-- The nodes of a document from one on: itself, and those in its entries. -/
inductive Within : Node → Node → Prop
  | self (n : Node) : Within n n
  | item {n m : Node} {i : Nat} {item : Value} (found : n.items[i]? = some item)
      (below : Within (ofItem (n.path ++ [i]) item) m) : Within n m

/-- What is wrong with a node, apart from its entries. Of a group the mapping is looked at first, then
the list, then the conjunction; of an entry the mapping, its field, the operator, and then the text of
the field and the value. -/
inductive Defect : Node → Refusal → Prop
  | noMapping {path : Path} {value : Value} (foreign : ∀ entries, value ≠ .map entries) :
      Defect (group path value) (.malformed (.groupNoMapping path))
  | noList {path : Path} {entries : List (Value × Value)} (unlisted : items? entries = none) :
      Defect (group path (.map entries)) (.malformed (.conditionsNoList path))
  | conjunction {path : Path} {entries : List (Value × Value)} {items : List Value} {r : Refusal}
      (listed : items? entries = some items)
      (unknown : Conjunction.read (given conjunctionKey entries) = .error r) :
      Defect (group path (.map entries)) r
  | noEntry {path : Path} {value : Value} (foreign : ∀ entries, value ≠ .map entries) :
      Defect (leaf path value) (.malformed (.entryNoMapping path))
  | noField {path : Path} {entries : List (Value × Value)}
      (missing : Value.lookup? "field" entries = none) :
      Defect (leaf path (.map entries)) (.malformed (.fieldMissing path))
  | operator {path : Path} {entries : List (Value × Value)} {field : Value} {r : Refusal}
      (found : Value.lookup? "field" entries = some field)
      (unknown : Operator.read (given "operator" entries) = .error r) :
      Defect (leaf path (.map entries)) r
  | field {path : Path} {entries : List (Value × Value)} {field : Value} {op : Operator}
      (found : Value.lookup? "field" entries = some field)
      (known : Operator.read (given "operator" entries) = .ok op)
      (blank : Condition.fieldName? field = none) :
      Defect (leaf path (.map entries)) ((Malformed.blankField field).refusal .condition)
  | value {path : Path} {entries : List (Value × Value)} {field : Value} {op : Operator}
      {name : String} {r : Refusal}
      (found : Value.lookup? "field" entries = some field)
      (known : Operator.read (given "operator" entries) = .ok op)
      (named : Condition.fieldName? field = some name)
      (unfit : Condition.fit op field (given "value" entries) = .error r) :
      Defect (leaf path (.map entries)) r

/-- A node with no defect of its own. -/
def Whole (n : Node) : Prop :=
  ∀ r, ¬ n.Defect r

/-- The first node from one on that has a defect, and the defect. -/
structure First (n m : Node) (r : Refusal) : Prop where
  within : n.Within m
  defect : m.Defect r
  earlier : ∀ other, n.Within other → other.path < m.path → other.Whole

variable {n m other : Node} {r : Refusal} {i j : Nat} {item : Value}
  {entries : List (Value × Value)}

@[simp] theorem path_ofItem {place : Path} : (ofItem place item).path = place := by
  unfold ofItem
  split
  · split <;> rfl
  · rfl

theorem ofItem_group {place : Path} (keyed : isGroup entries = true) :
    ofItem place (.map entries) = group place (.map entries) := by
  simp [ofItem, keyed]

theorem ofItem_leaf {place : Path} (single : isGroup entries = false) :
    ofItem place (.map entries) = leaf place (.map entries) := by
  simp [ofItem, single]

/-- The path to a node leads on to the nodes in its entries. -/
theorem Within.prefix_path (within : n.Within m) : n.path <+: m.path := by
  induction within with
  | self n => exact List.prefix_refl _
  | item found below ih =>
    rw [path_ofItem] at ih
    exact (List.prefix_append _ _).trans ih

theorem Within.item_prefix_path {place : Path} (below : (ofItem place item).Within m) :
    place <+: m.path := by
  simpa using below.prefix_path

private theorem not_lt_of_leads {place longer : Path} (leads : place <+: longer) :
    ¬ longer < place := by
  obtain ⟨rest, rfl⟩ := leads
  exact List.le_append_left

private theorem lt_of_siblings {place left right : Path} (before : i < j)
    (first : place ++ [i] <+: left) (second : place ++ [j] <+: right) : left < right := by
  obtain ⟨x, rfl⟩ := first
  obtain ⟨y, rfl⟩ := second
  rw [List.append_assoc, List.append_assoc]
  exact List.append_left_lt (List.cons_lt_cons_iff.mpr (.inl before))

theorem Within.unique (first : n.Within m) (second : n.Within other) (same : m.path = other.path) :
    m = other := by
  induction first generalizing other with
  | self n =>
    cases second with
    | self => rfl
    | item found below =>
      have longer := below.item_prefix_path.length_le
      rw [← same, List.length_append, List.length_singleton] at longer
      omega
  | @item n m i item found below ih =>
    cases second with
    | self =>
      have longer := below.item_prefix_path.length_le
      rw [same, List.length_append, List.length_singleton] at longer
      omega
    | @item _ _ j entry again beyond =>
      obtain ⟨x, left⟩ := below.item_prefix_path
      obtain ⟨y, right⟩ := beyond.item_prefix_path
      have equal : n.path ++ [i] ++ x = n.path ++ [j] ++ y := by rw [left, right, same]
      rw [List.append_assoc, List.append_assoc, List.append_cancel_left_eq] at equal
      obtain ⟨rfl, _⟩ := List.cons.inj equal
      cases found.symm.trans again
      exact ih beyond same

theorem header_eq_error_iff {place : Path} :
    header place entries = .error r ↔ Defect (group place (.map entries)) r := by
  constructor
  · intro refused
    cases listed : items? entries with
    | none =>
      rw [header_of_no_items? listed] at refused
      cases refused
      exact .noList listed
    | some items =>
      rw [header_of_items? listed] at refused
      cases read : Conjunction.read (given conjunctionKey entries) with
      | ok known =>
        rw [read] at refused
        cases refused
      | error refusal =>
        rw [read] at refused
        cases refused
        exact .conjunction listed read
  · intro defect
    cases defect with
    | noMapping foreign => exact absurd rfl (foreign entries)
    | noList unlisted => exact header_of_no_items? unlisted
    | conjunction listed unknown => rw [header_of_items? listed, unknown]

theorem leaf_eq_error_iff {place : Path} :
    Document.leaf place entries = .error r ↔ Defect (leaf place (.map entries)) r := by
  constructor
  · intro refused
    cases found : Value.lookup? "field" entries with
    | none =>
      rw [leaf_of_no_field found] at refused
      cases refused
      exact .noField found
    | some field =>
      rw [leaf_of_field found, Result.map_eq_error_iff] at refused
      obtain unknown | ⟨op, known, ⟨blank, rfl⟩ | ⟨name, named, unfit⟩⟩ :=
        Condition.compose_eq_error_iff.mp refused
      · exact .operator found unknown
      · exact .field found known blank
      · exact .value found known named unfit
  · intro defect
    cases defect with
    | noEntry foreign => exact absurd rfl (foreign entries)
    | noField missing => exact leaf_of_no_field missing
    | operator found unknown =>
      rw [leaf_of_field found, Result.map_eq_error_iff, Condition.compose_eq_error_iff]
      exact .inl unknown
    | field found known blank =>
      rw [leaf_of_field found, Result.map_eq_error_iff, Condition.compose_eq_error_iff]
      exact .inr ⟨_, known, .inl ⟨blank, rfl⟩⟩
    | value found known named unfit =>
      rw [leaf_of_field found, Result.map_eq_error_iff, Condition.compose_eq_error_iff]
      exact .inr ⟨_, known, .inr ⟨_, named, unfit⟩⟩

theorem isWritable_items (written : n.value.isWritable = true) :
    ∀ item ∈ n.items, item.isWritable = true := by
  intro item member
  unfold items at member
  split at member
  · next entries =>
    cases listed : items? entries with
    | none => simp [listed] at member
    | some items =>
      rw [listed, Option.getD_some] at member
      rcases items?_eq_some_iff.mp listed with ⟨_, rfl⟩ | found
      · cases member
      · have list : (given conditionsKey _).isWritable = true := isWritable_given written
        rw [given, found] at list
        exact Value.allWritable_iff.mp list item member
  · cases member

@[simp] theorem value_ofItem {place : Path} {item : Value} : (ofItem place item).value = item := by
  unfold ofItem
  split
  · split <;> rfl
  · rfl

theorem Within.isWritable (within : n.Within m) (written : n.value.isWritable = true) :
    m.value.isWritable = true := by
  induction within with
  | self => exact written
  | item found below ih =>
    exact ih (by simpa using isWritable_items written _ (List.mem_of_getElem? found))

/-- Where everything can be written out the refusal says what is wrong. -/
theorem Defect.isTold (defect : n.Defect r) (written : n.value.isWritable = true) :
    r.isTold = true := by
  cases defect with
  | noMapping | noList | noEntry | noField => rfl
  | conjunction listed unknown => exact Conjunction.isTold_of_read unknown (isWritable_given written)
  | operator found unknown => exact Operator.isTold_of_read unknown (isWritable_given written)
  | field found known blank =>
    have shown : (given "field" _).isWritable = true := isWritable_given written
    rw [given, found] at shown
    exact Condition.isTold_blankField shown
  | value found known named unfit =>
    have shown : (given "field" _).isWritable = true := isWritable_given written
    rw [given, found] at shown
    exact Condition.isTold_of_fit unfit shown (isWritable_given written)

theorem Defect.unique {cause : Refusal} (first : n.Defect r) (second : n.Defect cause) : r = cause := by
  cases n with
  | group place value =>
    cases value with
    | map entries =>
      exact Except.error.inj
        ((header_eq_error_iff.mpr first).symm.trans (header_eq_error_iff.mpr second))
    | _ =>
      cases first
      cases second
      rfl
  | leaf place value =>
    cases value with
    | map entries =>
      exact Except.error.inj
        ((leaf_eq_error_iff.mpr first).symm.trans (leaf_eq_error_iff.mpr second))
    | _ =>
      cases first
      cases second
      rfl

/-- Two nodes that are the first with a defect are the same, and so are their defects. -/
theorem First.unique {cause : Refusal} (first : n.First m r) (second : n.First other cause) :
    r = cause := by
  have notBefore : ¬ m.path < other.path := fun before =>
    second.earlier m first.within before r first.defect
  have notAfter : ¬ other.path < m.path := fun after =>
    first.earlier other second.within after cause second.defect
  have same : m.path = other.path :=
    List.le_antisymm (List.not_lt.mp notAfter) (List.not_lt.mp notBefore)
  cases first.within.unique second.within same
  exact first.defect.unique second.defect

theorem Defect.first (defect : n.Defect r) : n.First n r :=
  ⟨.self n, defect, fun _ within before => absurd before (not_lt_of_leads within.prefix_path)⟩

/-- What a result says about the nodes from one on: that none has a defect, or which is the first. -/
def Reports {α : Type} (n : Node) : Except Refusal α → Prop
  | .ok _ => ∀ m, n.Within m → m.Whole
  | .error r => ∃ m, n.First m r

theorem reports_map {α β : Type} {result : Except Refusal α} {f : α → β} :
    n.Reports (result.map f) ↔ n.Reports result := by
  cases result <;> rfl

theorem whole_of_header {place : Path} {conjunction : Conjunction}
    (known : header place entries = .ok conjunction) : (group place (.map entries)).Whole := by
  intro r defect
  cases known.symm.trans (header_eq_error_iff.mpr defect)

theorem reports_leaf {place : Path} :
    (leaf place (.map entries)).Reports (Document.leaf place entries) := by
  cases read : Document.leaf place entries with
  | error r => exact ⟨_, (leaf_eq_error_iff.mp read).first⟩
  | ok t =>
    intro m within r defect
    cases within with
    | self => cases read.symm.trans (leaf_eq_error_iff.mpr defect)
    | item found below => cases found

theorem whole_of_items (own : n.Whole)
    (each : ∀ i item, n.items[i]? = some item → ∀ m, (ofItem (n.path ++ [i]) item).Within m → m.Whole) :
    ∀ m, n.Within m → m.Whole := by
  intro m within
  cases within with
  | self => exact own
  | item found below => exact each _ _ found m below

/-- The first defect in an entry is the first of the group, if no entry before it has one. -/
theorem First.of_item (own : n.Whole) (found : n.items[i]? = some item)
    (first : (ofItem (n.path ++ [i]) item).First m r)
    (earlier : ∀ j < i, ∀ entry, n.items[j]? = some entry →
      ∀ other, (ofItem (n.path ++ [j]) entry).Within other → other.Whole) : n.First m r := by
  refine ⟨.item found first.within, first.defect, fun other within before => ?_⟩
  cases within with
  | self => exact own
  | @item _ _ j entry present below =>
    rcases Nat.lt_trichotomy j i with less | rfl | more
    · exact earlier j less entry present other below
    · cases found.symm.trans present
      exact first.earlier other below before
    · have after : m.path < other.path :=
        lt_of_siblings more first.within.item_prefix_path below.item_prefix_path
      exact absurd before (List.lt_asymm after)

theorem items_group {place : Path} {items : List Value} (listed : items? entries = some items) :
    (group place (.map entries)).items = items := by
  simp [Node.items, listed]

/-- The entries of a group report the first defect among them. -/
theorem reports_items {place : Path} {items : List Value} (listed : items? entries = some items)
    (own : (group place (.map entries)).Whole)
    (each : ∀ item ∈ items, ∀ place, (ofItem place item).Reports (entry place item)) :
    (group place (.map entries)).Reports (itemsFrom place 0 items) := by
  have reports : ∀ {i item}, items[i]? = some item →
      (ofItem (place ++ [i]) item).Reports (entry (place ++ [i]) item) :=
    fun found => each _ (List.mem_of_getElem? found) _
  have clean : ∀ {i item}, items[i]? = some item → (∃ t, entry (place ++ [i]) item = .ok t) →
      ∀ m, (ofItem (place ++ [i]) item).Within m → m.Whole := by
    rintro i item found ⟨t, made⟩
    have whole := reports found
    rwa [made] at whole
  cases read : itemsFrom place 0 items with
  | ok trees =>
    refine whole_of_items own fun i item found => ?_
    rw [items_group listed] at found
    exact clean found (by simpa using entry_isOk_of_itemsFrom read found)
  | error r =>
    obtain ⟨i, item, found, refused, earlier⟩ := entry_of_itemsFrom_refused read
    have defective := reports found
    rw [Nat.zero_add] at refused
    rw [refused] at defective
    obtain ⟨m, first⟩ := defective
    refine ⟨m, .of_item own (by rwa [items_group listed]) first fun j before entry present => ?_⟩
    rw [items_group listed] at present
    exact clean present (by simpa using earlier j before entry present)

theorem reports_group {place : Path}
    (each : ∀ items, items? entries = some items → ∀ item ∈ items, ∀ place,
      (ofItem place item).Reports (entry place item)) :
    (group place (.map entries)).Reports (Document.group place entries) := by
  cases own : header place entries with
  | error r =>
    have refused : Document.group place entries = .error r := by simp [Document.group, own]
    rw [refused]
    exact ⟨_, (header_eq_error_iff.mp own).first⟩
  | ok conjunction =>
    cases listed : items? entries with
    | none => cases own.symm.trans (header_of_no_items? listed)
    | some items =>
      have result : Document.group place entries =
          (itemsFrom place 0 items).map (⟨conjunction, ·⟩) := by
        rw [Document.group, own, conditions_of_items? listed, Result.ok_bind]
        cases itemsFrom place 0 items <;> rfl
      rw [result, reports_map]
      exact reports_items listed (whole_of_header own) (each items listed)

theorem reports_entry {place : Path} : (ofItem place item).Reports (entry place item) := by
  induction item using induct generalizing place with
  | step item ih =>
    cases item with
    | map entries =>
      cases kind : isGroup entries with
      | true =>
        rw [ofItem_group kind, entry_group kind, reports_map]
        exact reports_group fun items listed item member place =>
          ih entries items rfl listed item member
      | false =>
        rw [ofItem_leaf kind, entry_leaf kind]
        exact reports_leaf
    | _ => exact ⟨_, (Defect.noEntry (by simp)).first⟩

/-- A document reports the first of its nodes with a defect, if there is one. -/
theorem reports_ofDocument {document : Value} :
    (group [] document).Reports (Group.ofDocument document) := by
  cases document with
  | map entries => exact reports_group fun _ _ _ _ _ => reports_entry
  | _ => exact ⟨_, (Defect.noMapping (by simp)).first⟩

end Node

end Document

end SearchFilter
