import SearchFilter.Tree
import SearchFilter.Field.Reading

/-!
Filters as nested records. A member of a group is first taken for a condition, whose refusal ends
the reading; a member that is a condition and also has the fields of a group is taken for the one
that more of its fields speak for. Only a condition that cannot be refused for a value too long to be
shown leaves a member to be taken for a group.
-/

namespace SearchFilter.Record

/-- A tree, and how many fields of the record spoke for it. -/
structure Reading where
  tree : Tree
  fields : Nat
  deriving Repr

/-- How many fields a condition always has. -/
def conditionFields : Nat := 3

/-- The faults of a member that is no record at all: it is neither of the two kinds. -/
def noMember {α : Type} : Field.Checked α :=
  .faults [⟨[.name conditionRecord], .recordType conditionRecord⟩,
    ⟨[.name groupRecord], .recordType groupRecord⟩]

/-- The conjunction of a group, and whether the record gives it. -/
def readConjunction (entries : List (Value × Value)) : Field.Checked (Conjunction × Nat) :=
  match Value.lookup? "conjunction" entries with
  | none => .ok (.and, 0)
  | some value => match Conjunction.read value with
    | .ok c => .ok (c, 1)
    | .error refusal => refusal.ofConjunction

/-- The better reading of a record that is a condition. -/
def prefer (c : Condition) (group : Field.Checked Reading) : Field.Checked Reading :=
  match group with
  | .stopped failure => .stopped failure
  | .ok reading =>
    if conditionFields < reading.fields then .ok reading else .ok ⟨.leaf c, conditionFields⟩
  | .faults _ => .ok ⟨.leaf c, conditionFields⟩

/-- The reading of a record that cannot be shown as a condition: it is a group, or has the faults of
both. -/
def orGroup (group : Field.Checked Reading) : Field.Checked Reading :=
  match group with
  | .faults details => .faults (⟨[.name conditionRecord], .unwritable⟩ ::
      details.map (Field.Detail.inside (.name groupRecord)))
  | other => other

/-- A group out of its conjunction and its members. -/
def assemble (conjunction : Conjunction × Nat) (members : Option (List Reading)) : Reading :=
  match members with
  | none => ⟨.group conjunction.1 [], conjunction.2⟩
  | some readings =>
    ⟨.group conjunction.1 (readings.map (·.tree)),
      readings.foldl (fun total reading => total + reading.fields) (conjunction.2 + 1)⟩

mutual

/-- A member of a group. -/
def member : Value → Field.Checked Reading
  | .map entries =>
    match Condition.ofEntries entries with
    | .error (.unwritable _) => orGroup (assemble <$> readConjunction entries <*> members? entries)
    | .error refusal => .stopped refusal.bare
    | .ok c => prefer c (assemble <$> readConjunction entries <*> members? entries)
  | _ => noMember
termination_by structural v => v

/-- The members of a group, if its record gives them. -/
def members? : List (Value × Value) → Field.Checked (Option (List Reading))
  | [] => .ok none
  | entry :: rest => match listed? entry with
    | some readings => readings.map some
    | none => members? rest
termination_by structural entries => entries

/-- The members in an entry of a record, if it is the one for members. -/
def listed? : Value × Value → Option (Field.Checked (List Reading))
  | (key, value) => match key with
    | .text name =>
      if name == "members" then some ((items value).inside (.name "members")) else none
    | _ => none
termination_by structural entry => entry

/-- The members in a list, tuple or set. -/
def items : Value → Field.Checked (List Reading)
  | .list items | .tuple items | .set items => readings 0 items
  | _ => .fault .listType
termination_by structural v => v

/-- Members one after another; the faults of all are gathered. -/
def readings (index : Nat) : List Value → Field.Checked (List Reading)
  | [] => .ok []
  | item :: rest =>
    List.cons <$> (member item).inside (.index index) <*> readings (index + 1) rest
termination_by structural items => items

end

end SearchFilter.Record

namespace SearchFilter

/-- The group that a nested record describes. -/
def Group.ofRecord (value : Value) : Field.Checked Group :=
  match value with
  | .map entries =>
    (fun conjunction members => ⟨conjunction.1, (members.getD []).map (·.tree)⟩)
      <$> Record.readConjunction entries <*> Record.members? entries
  | _ => .fault (.recordType Record.groupRecord)

end SearchFilter
