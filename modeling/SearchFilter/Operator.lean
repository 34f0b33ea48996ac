namespace SearchFilter

inductive Operator
  | eq
  | ne
  | isIn
  | notIn
  | isNull
  | isNotNull
  | gt
  | ge
  | lt
  | le
  | between
  | startsWith
  | endsWith
  | contains
  deriving DecidableEq, Repr, Inhabited

inductive Conjunction
  | and
  | or
  deriving DecidableEq, Repr, Inhabited

namespace Operator

/-- Every operator, in the order in which they are listed to a reader. -/
def all : List Operator :=
  [eq, ne, isIn, notIn, isNull, isNotNull, gt, ge, lt, le, between, startsWith, endsWith, contains]

/-- The text of an operator in a query. -/
def name : Operator → String
  | eq => "="
  | ne => "!="
  | isIn => "IN"
  | notIn => "NOT IN"
  | isNull => "IS NULL"
  | isNotNull => "IS NOT NULL"
  | gt => ">"
  | ge => ">="
  | lt => "<"
  | le => "<="
  | between => "BETWEEN"
  | startsWith => "STARTS_WITH"
  | endsWith => "ENDS_WITH"
  | contains => "CONTAINS"

/-- The identifier by which an operator is shown as a value of its own. -/
def label : Operator → String
  | eq => "EQ"
  | ne => "NE"
  | isIn => "IN"
  | notIn => "NOT_IN"
  | isNull => "IS_NULL"
  | isNotNull => "IS_NOT_NULL"
  | gt => "GT"
  | ge => "GE"
  | lt => "LT"
  | le => "LE"
  | between => "BETWEEN"
  | startsWith => "STARTS_WITH"
  | endsWith => "ENDS_WITH"
  | contains => "CONTAINS"

/-- The operator with a given name. -/
def ofName? (name : String) : Option Operator :=
  all.find? (·.name == name)

/-- The operator asks whether a field is one of several values. -/
def takesSet (op : Operator) : Bool :=
  op = isIn ∨ op = notIn

/-- The operator asks whether a field has a value at all. -/
def takesNothing (op : Operator) : Bool :=
  op = isNull ∨ op = isNotNull

/-- The operator compares a field with a piece of text. -/
def takesText (op : Operator) : Bool :=
  op = startsWith ∨ op = endsWith ∨ op = contains

/-- The clause of the operator describes the documents that it excludes. -/
def isNegated (op : Operator) : Bool :=
  op = ne ∨ op = notIn ∨ op = isNull

/-- The pattern of the operator begins with a wildcard, which a cluster answers slowly. -/
def leadsWithWildcard (op : Operator) : Bool :=
  op = endsWith ∨ op = contains

end Operator

namespace Conjunction

def name : Conjunction → String
  | and => "AND"
  | or => "OR"

def all : List Conjunction :=
  [and, or]

def ofName? (name : String) : Option Conjunction :=
  all.find? (·.name == name)

end Conjunction

end SearchFilter
