import SearchFilter.Failure.Refusal
import SearchFilter.Text.Blank
import SearchFilter.Text.LetterCase

/-!
Operators and conjunctions out of documents. Their texts are matched without regard to case; an
operator may have any blanks around and between its words, a conjunction around it.
-/

namespace SearchFilter

namespace Operator

/-- The spelling under which an operator's text is looked up: upper case, single spaces. -/
def spelling (text : String) : String :=
  String.ofList (Text.upper (Text.collapse text.toList))

/-- The operator that a text names; `<>` is a second name of `!=`. -/
def ofText? (text : String) : Option Operator :=
  let spelled := spelling text
  if spelled = "<>" then some ne else ofName? spelled

/-- The operator in a document: no value means equality. -/
def read (value : Value) : Except Refusal Operator :=
  match value with
  | .null => .ok eq
  | .operator op => .ok op
  | other =>
    if other.isWritable then
      match ofText? other.display with
      | some op => .ok op
      | none => .error (.unsupported (Unsupported.of other none (all.map name)))
    else .error (.unwritable .operator)

end Operator

namespace Conjunction

/-- The conjunction that a text names. -/
def ofText? (text : String) : Option Conjunction :=
  ofName? (String.ofList (Text.upper (Text.strip text.toList)))

/-- The conjunction in a document: no value means that all members have to hold. -/
def read (value : Value) : Except Refusal Conjunction :=
  match value with
  | .null => .ok and
  | .conjunction c => .ok c
  | other =>
    if other.isWritable then
      match ofText? other.display with
      | some c => .ok c
      | none => .error (.malformed (.unknownConjunction other))
    else .error (.unwritable .conjunction)

end Conjunction

end SearchFilter
