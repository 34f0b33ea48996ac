namespace SearchFilter.Json

inductive Fault
  | byteOrderMark
  | expectedName
  | expectedColon
  | expectedComma
  | expectedValue
  | extraData
  | unterminatedText
  | controlCharacter
  | invalidEscape
  | invalidCodeEscape
  deriving DecidableEq, Repr

def Fault.message : Fault → String
  | .byteOrderMark => "Unexpected UTF-8 BOM (decode using utf-8-sig)"
  | .expectedName => "Expecting property name enclosed in double quotes"
  | .expectedColon => "Expecting ':' delimiter"
  | .expectedComma => "Expecting ',' delimiter"
  | .expectedValue => "Expecting value"
  | .extraData => "Extra data"
  | .unterminatedText => "Unterminated string starting at"
  | .controlCharacter => "Invalid control character at"
  | .invalidEscape => "Invalid \\escape"
  | .invalidCodeEscape => "Invalid \\uXXXX escape"

/-- A fault at a place of a text. -/
structure Syntax where
  fault : Fault
  line : Nat
  column : Nat
  offset : Nat
  deriving DecidableEq, Repr

/-- The place of an offset: lines and columns count from one. -/
def Syntax.at (fault : Fault) (text : List Char) (offset : Nat) : Syntax :=
  let before := text.take offset
  let lineStart := before.reverse.takeWhile (· != '\n')
  ⟨fault, before.count '\n' + 1, lineStart.length + 1, offset⟩

def Syntax.message (problem : Syntax) : String :=
  problem.fault.message ++ ": line " ++ toString problem.line ++ " column " ++
    toString problem.column ++ " (char " ++ toString problem.offset ++ ")"

/-- Why a text has no value: it breaks the grammar, or it writes an integer with too many digits. -/
inductive Problem
  | broken (problem : Syntax)
  | tooManyDigits (count : Nat)
  deriving DecidableEq, Repr

end SearchFilter.Json
