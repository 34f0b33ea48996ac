import SearchFilter.Failure
import SearchFilter.Sorting
import SearchFilter.Text.Digit

/-!
The natural order of values: numbers by value, and texts part by part, their runs of digits by
value and the rest by characters. A number stands before any text, and so does a run of digits.
-/

namespace SearchFilter

/-- One part of a key. -/
inductive KeyPart
  | number (n : Number)
  | text (s : String)
  deriving DecidableEq, Repr

abbrev NaturalKey := List KeyPart

namespace KeyPart

/-- Equality of parts, of which one object is equal to itself; `none` when a number signals. -/
def equal? : KeyPart → KeyPart → Option Bool
  | number a, number b => if a.identical b then some true else a.equal? b
  | text s, text t => some (s == t)
  | _, _ => some false

/-- Order of parts; `none` when two numbers have no order. -/
def less? : KeyPart → KeyPart → Option Bool
  | number a, number b => a.less? b
  | text s, text t => some (s < t)
  | number _, text _ => some true
  | text _, number _ => some false

end KeyPart

namespace NaturalKey

/-- Order of keys by their first different parts; a key comes before its continuations. -/
def less? : NaturalKey → NaturalKey → Option Bool
  | _, [] => some false
  | [], _ :: _ => some true
  | a :: as, b :: bs =>
    match a.equal? b with
    | none => none
    | some true => less? as bs
    | some false => a.less? b

/-- Splits a text into maximal runs whose characters all belong to a class or all do not. -/
def runs (p : Char → Bool) : List Char → List (List Char)
  | [] => []
  | c :: rest =>
    match runs p rest with
    | (d :: run) :: others => if p c == p d then (c :: d :: run) :: others else [c] :: (d :: run) :: others
    | others => [c] :: others

/-- The part of one run. Digit marks alone look like a numeral and are none. -/
def partOf (run : List Char) : Except ValueFault KeyPart :=
  if run.all Text.isDecimalDigit then
    if Numeral.maxDigits < run.length then .error (.tooManyDigits run.length)
    else .ok (.number (.int (Text.numeralValue run)))
  else if run.all Text.isDigitMark then .error (.noNumeral 10 (String.ofList run))
  else .ok (.text (String.ofList run))

/-- The parts of several runs, up to the first that has none. -/
def partsOf : List (List Char) → Except ValueFault NaturalKey
  | [] => .ok []
  | run :: rest => do
    let part ← partOf run
    let parts ← partsOf rest
    .ok (part :: parts)

/-- The key of a text. -/
def ofText (text : String) : Except ValueFault NaturalKey :=
  partsOf (runs Text.isDecimalDigit text.toList)

/-- The key of a value: a number is its own only part, all else is taken as text. -/
def ofValue : Value → Except ValueFault NaturalKey
  | .number n => .ok [.number n]
  | value => if value.isWritable then ofText value.plainText else .error .tooLongToWrite

/-- The keys of values, up to the first that has none. -/
def ofValues : List Value → Except ValueFault (List (NaturalKey × Value))
  | [] => .ok []
  | value :: rest => do
    let key ← ofValue value
    let keyed ← ofValues rest
    .ok ((key, value) :: keyed)

/-- Values in natural order. -/
def sortValues (values : List Value) : Except Failure (List Value) :=
  match ofValues values with
  | .error fault => .error (.badValue fault)
  | .ok keyed =>
    match Sorting.sort? (fun a b => less? a.1 b.1) keyed with
    | none => .error .incomparable
    | some sorted => .ok (sorted.map (·.2))

end NaturalKey

end SearchFilter
