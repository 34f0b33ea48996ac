import SearchFilter.Proofs.Condition.Shape
import SearchFilter.Proofs.Document.Reading

namespace SearchFilter

namespace Document

variable {path : Path} {index : Nat} {entries : List (Value × Value)} {items : List Value}
  {document item : Value}

mutual

/-- A mapping that lists its conditions, if it has any, and names its conjunction, if it does. -/
inductive GroupForm : Value → Prop
  | mapping {entries : List (Value × Value)} {items : List Value} {conjunction : Conjunction}
      (listed : items? entries = some items)
      (known : Conjunction.read (given conjunctionKey entries) = .ok conjunction)
      (each : ∀ item ∈ items, EntryForm item) : GroupForm (.map entries)

/-- A group, or a mapping with a field whose three parts form a condition. -/
inductive EntryForm : Value → Prop
  | group {entries : List (Value × Value)} (keyed : isGroup entries = true)
      (form : GroupForm (.map entries)) : EntryForm (.map entries)
  | leaf {entries : List (Value × Value)} {field kept : Value} {op : Operator} {name : String}
      (single : isGroup entries = false)
      (found : Value.lookup? "field" entries = some field)
      (known : Operator.read (given "operator" entries) = .ok op)
      (named : Condition.fieldName? field = some name)
      (fits : Condition.fit op field (given "value" entries) = .ok kept) :
      EntryForm (.map entries)

end

theorem compose_isOk_iff {field operator value : Value} :
    (∃ c, Condition.compose field operator value = .ok c) ↔ ∃ op name kept,
      Operator.read operator = .ok op ∧ Condition.fieldName? field = some name ∧
        Condition.fit op field value = .ok kept := by
  constructor
  · rintro ⟨c, made⟩
    obtain ⟨known, made⟩ := Condition.compose_eq_ok_iff.mp made
    obtain ⟨named, _, fits⟩ := Condition.make_eq_ok_iff.mp made
    exact ⟨c.operator, c.field, c.value, known, named, fits⟩
  · rintro ⟨op, name, kept, known, named, fits⟩
    exact ⟨⟨name, op, kept⟩, Condition.compose_eq_ok_iff.mpr
      ⟨known, Condition.make_eq_ok_iff.mpr ⟨named, rfl, fits⟩⟩⟩

/-- A group is read exactly if it is of the form, provided that its items are. -/
theorem group_isOk_iff
    (each : ∀ items, items? entries = some items → ∀ item ∈ items, ∀ path,
      (∃ t, entry path item = .ok t) ↔ EntryForm item) :
    (∃ g, group path entries = .ok g) ↔ GroupForm (.map entries) := by
  constructor
  · rintro ⟨g, read⟩
    obtain ⟨items, listed, known, members⟩ := group_eq_ok_iff.mp read
    refine .mapping listed known fun item member => ?_
    obtain ⟨i, found⟩ := List.mem_iff_getElem?.mp member
    exact (each items listed item member _).mp (entry_isOk_of_itemsFrom members found)
  · rintro (@⟨_, items, conjunction, listed, known, forms⟩)
    obtain ⟨members, read⟩ : ∃ members, itemsFrom path 0 items = .ok members :=
      itemsFrom_isOk_of_entries fun item member path =>
        (each items listed item member path).mpr (forms item member)
    exact ⟨⟨conjunction, members⟩, group_eq_ok_iff.mpr ⟨items, listed, known, read⟩⟩

theorem entry_isOk_iff : (∃ t, entry path item = .ok t) ↔ EntryForm item := by
  induction item using induct generalizing path with
  | step item ih =>
    have each : ∀ entries, item = .map entries → ∀ path,
        (∃ g, group path entries = .ok g) ↔ GroupForm (.map entries) :=
      fun entries made path => group_isOk_iff fun items listed item member path =>
        ih entries items made listed item member
    constructor
    · rintro ⟨t, read⟩
      obtain ⟨entries, rfl, ⟨keyed, g, made, _⟩ | ⟨single, field, c, found, made, _⟩⟩ :=
        entry_eq_ok_iff.mp read
      · exact .group keyed ((each entries rfl path).mp ⟨g, made⟩)
      · obtain ⟨op, name, kept, known, named, fits⟩ := compose_isOk_iff.mp ⟨c, made⟩
        exact .leaf single found known named fits
    · intro form
      cases form with
      | group keyed form =>
        obtain ⟨g, made⟩ := (each _ rfl path).mpr form
        exact ⟨g.toTree, entry_eq_ok_iff.mpr ⟨_, rfl, .inl ⟨keyed, g, made, rfl⟩⟩⟩
      | leaf single found known named fits =>
        obtain ⟨c, made⟩ := compose_isOk_iff.mpr ⟨_, _, _, known, named, fits⟩
        exact ⟨.leaf c, entry_eq_ok_iff.mpr ⟨_, rfl, .inr ⟨single, _, c, found, made, rfl⟩⟩⟩

end Document

theorem Group.ofDocument_isOk {document : Value} :
    (∃ g, ofDocument document = .ok g) ↔ Document.GroupForm document := by
  constructor
  · rintro ⟨g, read⟩
    cases document with
    | map entries =>
      exact (Document.group_isOk_iff fun _ _ _ _ _ => Document.entry_isOk_iff).mp ⟨g, read⟩
    | _ => cases read
  · intro form
    cases form with
    | mapping listed known each =>
      exact (Document.group_isOk_iff fun _ _ _ _ _ => Document.entry_isOk_iff).mpr
        (.mapping listed known each)

end SearchFilter
