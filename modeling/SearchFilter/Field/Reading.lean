import SearchFilter.Field.Checked
import SearchFilter.Number.Reading
import SearchFilter.Text.Blank
import SearchFilter.Value.Equality
import SearchFilter.Lowering

/-!
Fields of records out of documents. A number or truth value may also be given by its text, as
environments and hand-written files do; a value that would lose something is a fault.
-/

namespace SearchFilter.Field

/-- The text that bytes encode. -/
def decodeText? (content : List UInt8) : Option String :=
  String.fromUTF8? ⟨content.toArray⟩

/-- A text without the blanks around it. The separators of the control range are no blanks here. -/
def trim (text : String) : List Char :=
  let outer := fun c => Text.isBlank c && !(0x1c ≤ c.toNat && c.toNat ≤ 0x1f)
  Text.dropEndWhile outer (text.toList.dropWhile outer)

/-- The text of a value that is one. -/
def readText : Value → Checked String
  | .bytes content => match decodeText? content with
    | some s => .ok s
    | none => .fault .textEncoding
  | value => match value.asText? with
    | some s => .ok s
    | none => .fault .textType

/-- Digits before a fraction of zeros, which is dropped. -/
def dropZeroFraction (text : List Char) : List Char :=
  let whole := text.takeWhile (· != '.')
  match text.drop whole.length with
  | '.' :: zeros => if !zeros.isEmpty && zeros.all (· == '0') then whole else text
  | _ => text

/-- The integer that a text denotes: perhaps signed, perhaps with underscores between digits or a
fraction of zeros. -/
def intOfText? (text : List Char) : Option Int :=
  let (negative, digits) := Numeral.splitSign (dropZeroFraction text)
  match Numeral.withoutUnderscores? digits with
  | none => none
  | some digits =>
    if digits.isEmpty || !digits.all Char.isDigit then none
    else
      let size : Int := Numeral.value digits
      some (if negative then -size else size)

def readIntText (text : String) : Checked Int :=
  let trimmed := trim text
  if Numeral.maxDigits < (String.ofList trimmed).utf8ByteSize then .fault .intParsingSize
  else match intOfText? trimmed with
    | some n => .ok n
    | none => .fault .intParsing

/-- A floating number as an integer, if it is one of 64 bits. -/
def readIntFloat (x : Binary64) : Checked Int :=
  if !x.isFinite then .fault .finiteNumber
  else match x.toInt? with
    | none => .fault .intFraction
    | some n => if n.natAbs < Nat.pow 2 63 then .ok n else .fault .intParsingSize

def readIntDecimal (d : Decimal) : Checked Int :=
  match d.value? with
  | none => .fault .finiteNumber
  | some q => if q.den = 1 then .ok q.num else .fault .intFraction

/-- An integer. -/
def readInt : Value → Checked Int
  | .bool b => .ok (if b then 1 else 0)
  | .number (.int n) => .ok n
  | .number (.float x) => readIntFloat x
  | .number (.decimal d) => readIntDecimal d
  | .bytes content => match decodeText? content with
    | some s => readIntText s
    | none => .fault .intParsing
  | value => match value.asText? with
    | some s => readIntText s
    | none => .fault .intType

def readFloatText (text : String) : Checked Binary64 :=
  let trimmed := trim text
  match (Numeral.withoutUnderscores? trimmed).bind Binary64.ofText? with
  | some x => .ok x
  | none => .fault .floatParsing

/-- The floating number nearest to a decimal one. -/
def floatOfDecimal? : Decimal → Option Binary64
  | .finite negative coefficient exponent =>
    some (Binary64.ofDecimal negative coefficient exponent)
  | .infinity negative => some (.infinity negative)
  | .nan _ signaling _ _ => if signaling then none else some Binary64.nanOfText

/-- A floating number. -/
def readFloat : Value → Checked Binary64
  | .bool b => .ok (Binary64.ofInt (if b then 1 else 0))
  | .number (.int n) =>
    let x := Binary64.ofInt n
    if x.isFinite then .ok x else .fault .floatType
  | .number (.float x) => .ok x
  | .number (.decimal d) => match floatOfDecimal? d with
    | some x => .ok x
    | none => .fault .floatType
  | .bytes content => match decodeText? content with
    | some s => readFloatText s
    | none => .fault .floatParsing
  | value => match value.asText? with
    | some s => readFloatText s
    | none => .fault .floatType

/-- The words for a truth value, in lower case. -/
def trueWords : List String := ["1", "t", "true", "y", "yes", "on"]

def falseWords : List String := ["0", "f", "false", "n", "no", "off"]

def readBoolText (text : String) : Checked Bool :=
  let word := text.toLower
  if trueWords.contains word then .ok true
  else if falseWords.contains word then .ok false
  else .fault .boolParsing

def readBoolInt (n : Int) : Checked Bool :=
  if n = 1 then .ok true
  else if n = 0 then .ok false
  else if n.natAbs < Nat.pow 2 63 then .fault .boolParsing
  else .fault .boolType

def readBoolFloat (x : Binary64) : Checked Bool :=
  match x.toInt? with
  | some n => readBoolInt n
  | none => .fault .boolType

/-- A truth value. -/
def readBool : Value → Checked Bool
  | .bool b => .ok b
  | .number (.int n) => readBoolInt n
  | .number (.float x) => readBoolFloat x
  | .number (.decimal d) => match floatOfDecimal? d with
    | some x => readBoolFloat x
    | none => .fault .boolType
  | .bytes content => match decodeText? content with
    | some s => readBoolText s
    | none => .fault .boolParsing
  | value => match value.asText? with
    | some s => readBoolText s
    | none => .fault .boolType

/-- A value that may be absent. -/
def readOptional {α : Type} (read : Value → Checked α) : Value → Checked (Option α)
  | .null => .ok none
  | value => (read value).map some

/-- A number with a least value. -/
def atLeast (bound : Nat) (n : Int) : Checked Int :=
  if (bound : Int) ≤ n then .ok n else .fault (.atLeast bound)

/-- Items of a list, each with its index; all faults are gathered. -/
def readItems {α : Type} (read : Value → Checked α) (index : Nat) :
    List Value → Checked (List α)
  | [] => .ok []
  | item :: rest =>
    List.cons <$> (read item).inside (.index index) <*> readItems read (index + 1) rest

/-- The step to a value under a key. -/
def keyStep (key : Value) : Step :=
  match key.asText?, key.asNumber? with
  | some s, _ => .name s
  | none, some (.int n) => .index n
  | none, _ => .name key.display

/-- Entries of a mapping whose keys have to be texts. -/
def readKeys : List (Value × Value) → Checked (List (String × Value))
  | [] => .ok []
  | (key, value) :: rest =>
    let name := ((readText key).inside (.name "[key]")).inside (keyStep key)
    (fun name rest => (name, value) :: rest) <$> name <*> readKeys rest

/-- A mapping from texts to any values. -/
def readMapping : Value → Checked (List (String × Value))
  | .map entries => readKeys entries
  | _ => .fault .mappingType

/-- A field that has to be there. -/
def required {α : Type} (entries : List (Value × Value)) (name : String)
    (read : Value → Checked α) : Checked α :=
  match Value.lookup? name entries with
  | some value => (read value).inside (.name name)
  | none => (Checked.fault .missing).inside (.name name)

/-- A field with a default. -/
def withDefault {α : Type} (entries : List (Value × Value)) (name : String) (default : α)
    (read : Value → Checked α) : Checked α :=
  match Value.lookup? name entries with
  | some value => (read value).inside (.name name)
  | none => .ok default

/-- The entries of a value that is to be a record. -/
def recordEntries (record : String) : Value → Checked (List (Value × Value))
  | .map entries => .ok entries
  | _ => .fault (.recordType record)

end SearchFilter.Field
