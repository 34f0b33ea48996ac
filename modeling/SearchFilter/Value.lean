import SearchFilter.Number
import SearchFilter.Calendar
import SearchFilter.Operator

/-!
The values that queries, documents and settings are made of. A document arrives untyped, so any
value may stand anywhere; what a place accepts is decided by the readers of documents.
-/

namespace SearchFilter

inductive Value
  | null
  | bool (b : Bool)
  | number (n : Number)
  | date (d : Date)
  | moment (m : Moment)
  | bytes (content : List UInt8)
  | text (s : String)
  | list (items : List Value)
  | tuple (items : List Value)
  | set (items : List Value)
  | map (entries : List (Value × Value))
  | operator (op : Operator)
  | conjunction (c : Conjunction)
  deriving Repr, Inhabited

namespace Value

@[match_pattern] abbrev int (n : Int) : Value := .number (.int n)

@[match_pattern] abbrev float (x : Binary64) : Value := .number (.float x)

@[match_pattern] abbrev decimal (d : Decimal) : Value := .number (.decimal d)

/-- The content of a value that is a piece of text; a named operator or conjunction is one. -/
def asText? : Value → Option String
  | text s => some s
  | operator op => some op.name
  | conjunction c => some c.name
  | _ => none

/-- One value that fits a single field: text, a number, a truth value or a point of the calendar. -/
def isScalar : Value → Bool
  | bool _ | number _ | date _ | moment _ | text _ | operator _ | conjunction _ => true
  | null | bytes _ | list _ | tuple _ | set _ | map _ => false

/-- Empty, zero, false and absent values are not truthy. -/
def isTruthy : Value → Bool
  | null => false
  | bool b => b
  | number n => n.isTruthy
  | bytes content => !content.isEmpty
  | text s => !s.isEmpty
  | list items | tuple items | set items => !items.isEmpty
  | map entries => !entries.isEmpty
  | date _ | moment _ | operator _ | conjunction _ => true

/-- The name of a value's type in messages. -/
def typeName : Value → String
  | null => "NoneType"
  | bool _ => "bool"
  | number (.int _) => "int"
  | number (.float _) => "float"
  | number (.decimal _) => "Decimal"
  | date _ => "date"
  | moment _ => "datetime"
  | bytes _ => "bytes"
  | text _ => "str"
  | list _ => "list"
  | tuple _ => "tuple"
  | set _ => "set"
  | map _ => "dict"
  | operator _ => "Operator"
  | conjunction _ => "Conjunction"

/-- The value under a name in the entries of a mapping. -/
def lookup? (name : String) (entries : List (Value × Value)) : Option Value :=
  (entries.find? fun entry => match entry.1 with
    | text s => s == name
    | _ => false).map (·.2)

/-- A mapping from names, in the given order. -/
def ofFields (fields : List (String × Value)) : Value :=
  .map (fields.map fun (name, value) => (.text name, value))

end Value

end SearchFilter
