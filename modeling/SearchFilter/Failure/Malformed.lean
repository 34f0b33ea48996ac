import SearchFilter.Value.Printer
import SearchFilter.Json.Problem
import SearchFilter.Yaml.Fault

namespace SearchFilter

/-- A place in a document: the indices of the entries that lead to it. -/
abbrev Path := List Nat

/-- The text of a path, from the root outwards. -/
def Path.text (path : Path) : String :=
  path.foldl (fun text index => text ++ ".conditions[" ++ toString index ++ "]") "$"

inductive Malformed
  | blankField (got : Value)
  | takesNothing (op : Operator) (field got : Value)
  | takesSet (op : Operator) (field : Value)
  | takesMember (op : Operator) (field : Value)
  | takesPair (field got : Value)
  | takesScalar (op : Operator) (field got : Value)
  | takesText (op : Operator) (field : Value)
  | unknownConjunction (got : Value)
  | containsItself
  | foreignMember (typeName : String)
  | conditionAsField (field : String) (op : Operator) (value : Value)
  | groupNoMapping (path : Path)
  | conditionsNoList (path : Path)
  | fieldMissing (path : Path)
  | entryNoMapping (path : Path)
  | invalidJson (file : String) (problem : Json.Syntax)
  | invalidYaml (file : String) (fault : Yaml.Fault)
  | fileNoMapping (file : String)
  | invalidSort (entry : Value)
  | invalidRange (got : Value)
  deriving Repr

namespace Malformed

/-- An operator on a field, as the beginning of a message. -/
def subject (op : Operator) (field : Value) : String :=
  op.name ++ " on '" ++ field.display ++ "' "

def message : Malformed → String
  | blankField got => "Condition field must be a non-empty string, got " ++ got.quoted ++ "."
  | takesNothing op field got => subject op field ++ "takes no value, got " ++ got.quoted ++ "."
  | takesSet op field => subject op field ++ "requires a set of values."
  | takesMember op field => subject op field ++ "requires at least one value."
  | takesPair field got =>
    subject .between field ++ "requires exactly two values, got " ++ got.quoted ++ "."
  | takesScalar op field got =>
    subject op field ++ "requires a scalar value, got " ++ got.typeName ++ "."
  | takesText op field => subject op field ++ "requires a string value."
  | unknownConjunction got =>
    "Unknown conjunction '" ++ got.display ++ "'. Expected AND or OR."
  | containsItself => "A condition group cannot contain itself."
  | foreignMember typeName => "Cannot add " ++ typeName ++ " to a condition group."
  | conditionAsField field op value =>
    "Condition field must be a non-empty string, got Condition(field=" ++ Text.quoted field ++
      ", operator=" ++ (Value.operator op).quoted ++ ", value=" ++ value.quoted ++ ")."
  | groupNoMapping path => "Condition group at " ++ path.text ++ " must be a mapping."
  | conditionsNoList path => "'conditions' at " ++ path.text ++ " must be a list."
  | fieldMissing path => "Condition at " ++ path.text ++ " is missing 'field'."
  | entryNoMapping path => "Condition at " ++ path.text ++ " must be a mapping."
  | invalidJson file problem => "Invalid JSON in " ++ file ++ ": " ++ problem.message
  | invalidYaml file _ => "Invalid YAML in " ++ file ++ ": <yaml error>"
  | fileNoMapping file => "Query file " ++ file ++ " must contain a mapping"
  | invalidSort entry => "Invalid sort entry: " ++ entry.quoted
  | invalidRange got => "Invalid range: " ++ got.quoted

/-- The values that the message shows. -/
def shown : Malformed → List Value
  | blankField got | unknownConjunction got | invalidSort got | invalidRange got => [got]
  | takesNothing _ field got | takesPair field got => [field, got]
  | takesSet _ field | takesMember _ field | takesScalar _ field _ | takesText _ field => [field]
  | conditionAsField _ _ value => [value]
  | containsItself | foreignMember _ | groupNoMapping _ | conditionsNoList _ | fieldMissing _
  | entryNoMapping _ | invalidJson .. | invalidYaml .. | fileNoMapping _ => []

/-- The field that the message is about. -/
def field? : Malformed → Option Value
  | takesNothing _ field _ | takesSet _ field | takesMember _ field | takesPair field _
  | takesScalar _ field _ | takesText _ field => some field
  | _ => none

end Malformed

end SearchFilter
