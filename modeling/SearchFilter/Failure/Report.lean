import SearchFilter.Failure
import SearchFilter.Lowering

namespace SearchFilter

/-- An error as its reader gets it. -/
structure Report where
  kind : ErrorKind
  message : String
  payload : List (String × Value)
  deriving Repr

namespace Report

/-- The payload of a refused operator. -/
def unsupportedPayload (u : Unsupported) : List (String × Value) :=
  [("error", .text "UNSUPPORTED_OPERATOR"), ("operator", .text u.operator),
    ("conjunction", u.conjunction.elim .null .text),
    ("suggestions", .list (u.suggestions.map .text))]

/-- The payload of a malformed condition. -/
def malformedPayload (message : String) (field : Value) : List (String × Value) :=
  [("error", .text "MALFORMED_CONDITION"), ("message", .text message), ("field", field)]

/-- The payload of an error without a form of its own. -/
def plainPayload (kind : ErrorKind) (message : String) : List (String × Value) :=
  [("error", .text kind.name), ("message", .text message)]

/-- The words among which suggestions are sought. -/
def candidates? (valid : Value) : Except Failure (List String) :=
  if !valid.isTruthy then .ok []
  else match valid.items? with
    | none => .error .wrongType
    | some items => items.mapM fun item => match item.asText? with
      | some word => .ok word
      | none => .error .wrongType

/-- A message that shows a value. -/
def showing (value : Value) : Except Failure String :=
  if value.isWritable then .ok value.display else .error (.badValue .tooLongToWrite)

/-- Builds an error of a kind from arguments. -/
def make (kind : ErrorKind) (arguments : List Value) : Except Failure Report :=
  match kind, arguments with
  | .malformedCondition, [message] => malformed message .null
  | .malformedCondition, [message, field] => malformed message field
  | .malformedCondition, _ => .error .wrongType
  | .unsupportedOperator, [operator] => unsupported operator .null .null
  | .unsupportedOperator, [operator, conjunction] => unsupported operator conjunction .null
  | .unsupportedOperator, [operator, conjunction, valid] => unsupported operator conjunction valid
  | .unsupportedOperator, _ => .error .wrongType
  | kind, arguments => do
    let message ← messageOf arguments
    .ok ⟨kind, message, plainPayload kind message⟩
where
  /-- The message that arguments give: nothing, the text of the only one, or all of them. -/
  messageOf : List Value → Except Failure String
    | [] => .ok ""
    | [argument] => showing argument
    | arguments => showing (.tuple arguments)
  malformed (message field : Value) : Except Failure Report := do
    let text ← showing message
    .ok ⟨.malformedCondition, text, malformedPayload text field⟩
  unsupported (operator conjunction valid : Value) : Except Failure Report := do
    let _ ← showing operator
    let _ ← showing conjunction
    let words ← candidates? valid
    let refusal := Unsupported.of operator
      (match conjunction with
        | .null => none
        | other => some other) words
    .ok ⟨.unsupportedOperator, refusal.message, unsupportedPayload refusal⟩

/-- The payload of a failure of the library's own, without its message. -/
def payloadOf (failure : Failure) (kind : ErrorKind) : List (String × Value) :=
  match failure with
  | .malformed cause =>
    [("error", .text "MALFORMED_CONDITION"),
      ("field", (cause.field?.bind Value.asText?).elim .null .text)]
  | .unsupported cause => unsupportedPayload cause
  | .raised .malformedCondition _ =>
    [("error", .text "MALFORMED_CONDITION"), ("field", .null)]
  | .raised .unsupportedOperator message =>
    unsupportedPayload (Unsupported.of (.text message) none [])
  | _ => [("error", .text kind.name)]

end Report

end SearchFilter
