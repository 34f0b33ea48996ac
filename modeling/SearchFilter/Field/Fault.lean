namespace SearchFilter.Field

inductive Fault
  | missing
  | extra
  | textType
  | textTooShort (least : Nat)
  | choice (choices : String)
  | recordType (record : String)
  | mappingType
  | listType
  | intType
  | intParsing
  | intParsingSize
  | intFraction
  | finiteNumber
  | atLeast (bound : Nat)
  | above (bound : Nat)
  | boolType
  | boolParsing
  | floatType
  | floatParsing
  | textEncoding
  | frozenField
  | frozenRecord
  | rejected (reason : String)
  deriving DecidableEq, Repr

namespace Fault

def code : Fault → String
  | missing => "missing"
  | extra => "extra_forbidden"
  | textType => "string_type"
  | textTooShort _ => "string_too_short"
  | choice _ => "enum"
  | recordType _ => "model_type"
  | mappingType => "dict_type"
  | listType => "list_type"
  | intType => "int_type"
  | intParsing => "int_parsing"
  | intParsingSize => "int_parsing_size"
  | intFraction => "int_from_float"
  | finiteNumber => "finite_number"
  | atLeast _ => "greater_than_equal"
  | above _ => "greater_than"
  | boolType => "bool_type"
  | boolParsing => "bool_parsing"
  | floatType => "float_type"
  | floatParsing => "float_parsing"
  | textEncoding => "string_unicode"
  | frozenField => "frozen_field"
  | frozenRecord => "frozen_instance"
  | rejected _ => "value_error"

def message : Fault → String
  | missing => "Field required"
  | extra => "Extra inputs are not permitted"
  | textType => "Input should be a valid string"
  | textTooShort least => "String should have at least " ++ toString least ++
      (if least = 1 then " character" else " characters")
  | choice choices => "Input should be " ++ choices
  | recordType record => "Input should be a valid dictionary or instance of " ++ record
  | mappingType => "Input should be a valid dictionary"
  | listType => "Input should be a valid list"
  | intType => "Input should be a valid integer"
  | intParsing => "Input should be a valid integer, unable to parse string as an integer"
  | intParsingSize => "Unable to parse input string as an integer, exceeded maximum size"
  | intFraction => "Input should be a valid integer, got a number with a fractional part"
  | finiteNumber => "Input should be a finite number"
  | atLeast bound => "Input should be greater than or equal to " ++ toString bound
  | above bound => "Input should be greater than " ++ toString bound
  | boolType => "Input should be a valid boolean"
  | boolParsing => "Input should be a valid boolean, unable to interpret input"
  | floatType => "Input should be a valid number"
  | floatParsing => "Input should be a valid number, unable to parse string as a number"
  | textEncoding => "Input should be a valid string, unable to parse raw data as a unicode string"
  | frozenField => "Field is frozen"
  | frozenRecord => "Instance is frozen"
  | rejected reason => "Value error, " ++ reason

end Fault

/-- One step from a record towards a value inside it. -/
inductive Step
  | name (name : String)
  | index (n : Int)
  deriving DecidableEq, Repr

/-- A fault and where it lies. -/
structure Detail where
  place : List Step
  fault : Fault
  deriving DecidableEq, Repr

def Detail.inside (step : Step) (detail : Detail) : Detail :=
  { detail with place := step :: detail.place }

/-- The faults of a record of a given kind. -/
structure Invalid where
  record : String
  details : List Detail
  deriving DecidableEq, Repr

end SearchFilter.Field
