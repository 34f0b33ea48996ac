import SearchFilter.Value.Printer
import SearchFilter.Text.Similar
import SearchFilter.Text.LetterCase

namespace SearchFilter

/-- An operator without a meaning, perhaps under a conjunction, and similar valid ones. -/
structure Unsupported where
  operator : String
  conjunction : Option String
  suggestions : List String
  deriving DecidableEq, Repr

namespace Unsupported

/-- The word that a value is taken for: the name of an operator or conjunction, else its text. -/
def wordOf (value : Value) : String :=
  value.asText?.getD value.display

/-- The refusal of an operator, with suggestions out of a list of valid words. -/
def of (operator : Value) (conjunction : Option Value) (valid : List String) : Unsupported :=
  let word := wordOf operator
  { operator := word
    conjunction := conjunction.map wordOf
    suggestions := Text.similar (String.ofList (Text.upper word.toList)) valid }

def message (u : Unsupported) : String :=
  "Unsupported operator '" ++ u.operator ++ "'" ++
    (match u.conjunction with
      | some conjunction => " with conjunction '" ++ conjunction ++ "'"
      | none => "") ++ "." ++
    (if u.suggestions.isEmpty then ""
      else " Did you mean: " ++ ", ".intercalate u.suggestions ++ "?")

end Unsupported

end SearchFilter
