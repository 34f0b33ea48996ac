import SearchFilter.Operator.Reading

/-!
A condition compares one field with a value. What the value may be depends on the operator: nothing
for the null checks, at least one scalar for the set operators, two scalars for a range, a text for
the patterns and one scalar for the rest. A condition is made only if its value fits.
-/

namespace SearchFilter

structure Condition where
  field : String
  operator : Operator
  value : Value
  deriving Repr, Inhabited

namespace Condition

/-- Refuses anything but a scalar. -/
def checkScalar (op : Operator) (field value : Value) : Except Malformed Unit :=
  if value.isScalar then .ok () else .error (.takesScalar op field value)

/-- Refuses a list with anything but scalars, for its first such item. -/
def checkScalars (op : Operator) (field : Value) : List Value → Except Malformed Unit
  | [] => .ok ()
  | item :: rest => match checkScalar op field item with
    | .ok _ => checkScalars op field rest
    | .error cause => .error cause

/-- The members of a set in the order of their texts. -/
def inTextOrder (items : List Value) : List Value :=
  items.mergeSort fun a b => a.display ≤ b.display

/-- The items of a value that a set operator takes. -/
def setItems? : Value → Option (List Value)
  | .list items | .tuple items => some items
  | .set items => some (inTextOrder items)
  | _ => none

/-- The items of a value that a range takes. -/
def pairItems? : Value → Option (List Value)
  | .list [low, high] | .tuple [low, high] => some [low, high]
  | _ => none

/-- The value in the form in which a condition keeps it, if it fits the operator. -/
def shape (op : Operator) (field value : Value) : Except Malformed Value :=
  if op.takesNothing then
    match value with
    | .null => .ok .null
    | _ => .error (.takesNothing op field value)
  else if op.takesSet then
    match setItems? value with
    | none => .error (.takesSet op field)
    | some [] => .error (.takesMember op field)
    | some items => match checkScalars op field items with
      | .ok _ => .ok (.tuple items)
      | .error cause => .error cause
  else if op = .between then
    match pairItems? value with
    | none => .error (.takesPair field value)
    | some items => match checkScalars op field items with
      | .ok _ => .ok (.tuple items)
      | .error cause => .error cause
  else match checkScalar op field value with
    | .error cause => .error cause
    | .ok _ =>
      if op.takesText && value.asText?.isNone then .error (.takesText op field) else .ok value

/-- Whether a value is kept in the order of the texts of its items, so that these are made. -/
def needsTexts (op : Operator) : Value → Bool
  | .set _ => op.takesSet
  | _ => false

/-- The value in the form in which a condition keeps it, if it fits the operator and the texts that this
takes can be made. -/
def fit (op : Operator) (field value : Value) : Except Refusal Value :=
  if needsTexts op value && !value.isWritable then .error (.unwritable .condition)
  else match shape op field value with
    | .ok kept => .ok kept
    | .error cause => .error (cause.refusal .condition)

/-- The name of a field, if a value is one: a text that is not blank. -/
def fieldName? (field : Value) : Option String :=
  match field.asText? with
  | some name => if (Text.strip name.toList).isEmpty then none else some name
  | none => none

/-- A condition out of its three parts: the field is checked first, then the operator, then the
value. -/
def make (field operator value : Value) : Except Refusal Condition :=
  match fieldName? field with
  | none => .error ((Malformed.blankField field).refusal .condition)
  | some name => match Operator.read operator with
    | .error refusal => .error (refusal.within .condition)
    | .ok op => match fit op field value with
      | .error refusal => .error refusal
      | .ok kept => .ok ⟨name, op, kept⟩

/-- A condition as it is added to a group: the operator is read before the field is checked. -/
def compose (field operator value : Value) : Except Refusal Condition :=
  match Operator.read operator with
  | .error refusal => .error refusal
  | .ok op => make field (.operator op) value

/-- A condition out of the entries of a mapping; a missing part counts as no value. -/
def ofEntries (entries : List (Value × Value)) : Except Refusal Condition :=
  make ((Value.lookup? "field" entries).getD .null)
    ((Value.lookup? "operator" entries).getD .null)
    ((Value.lookup? "value" entries).getD .null)

/-- A value with its items in a list, as documents write them. -/
def listed : Value → Value
  | .tuple items => .list items
  | value => value

/-- The document of a condition. -/
def toDocument (c : Condition) : Value :=
  .ofFields [("field", .text c.field), ("operator", .text c.operator.name),
    ("value", listed c.value)]

end Condition

end SearchFilter
