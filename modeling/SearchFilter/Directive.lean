import SearchFilter.Field.Reading

namespace SearchFilter

inductive SortDirection
  | ascending
  | descending
  deriving DecidableEq, Repr, Inhabited

namespace SortDirection

def name : SortDirection → String
  | ascending => "ASC"
  | descending => "DESC"

/-- The word for a direction in a request. -/
def clauseName : SortDirection → String
  | ascending => "asc"
  | descending => "desc"

def read (value : Value) : Field.Checked SortDirection :=
  match (Field.readText value).andThen fun s =>
      if s = "ASC" then .ok ascending else if s = "DESC" then .ok descending
      else .fault (.choice "'ASC' or 'DESC'") with
  | .ok direction => .ok direction
  | _ => .fault (.choice "'ASC' or 'DESC'")

end SortDirection

/-- The order of hits by one field. -/
structure HitOrder where
  field : String
  direction : SortDirection
  deriving DecidableEq, Repr, Inhabited

namespace HitOrder

def readField (value : Value) : Field.Checked String :=
  (Field.readText value).andThen fun s =>
    if s.isEmpty then .fault (.textTooShort 1) else .ok s

/-- A sort directive out of the entries of a mapping. -/
def ofEntries (entries : List (Value × Value)) : Field.Checked HitOrder :=
  HitOrder.mk <$> Field.required entries "field" readField
    <*> Field.withDefault entries "direction" .ascending SortDirection.read

/-- The sort clause of a request. -/
def toDocument (s : HitOrder) : Value :=
  .ofFields [(s.field, .ofFields [("order", .text s.direction.clauseName)])]

end HitOrder

/-- The window of hits: how many to skip, and how many to return at most. -/
structure Window where
  start : Option Int
  length : Option Int
  deriving DecidableEq, Repr, Inhabited

namespace Window

def readBounded (bound : Nat) : Value → Field.Checked (Option Int) :=
  Field.readOptional fun value => (Field.readInt value).andThen (Field.atLeast bound)

/-- A window out of the entries of a mapping: one may skip nothing, but not return nothing. -/
def ofEntries (entries : List (Value × Value)) : Field.Checked Window :=
  Window.mk <$> Field.withDefault entries "start" none (readBounded 0)
    <*> Field.withDefault entries "length" none (readBounded 1)

end Window

end SearchFilter
