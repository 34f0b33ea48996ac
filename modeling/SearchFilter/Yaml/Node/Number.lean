import SearchFilter.Number.Reading
import SearchFilter.Failure
import SearchFilter.Text.Blank
import SearchFilter.Text.Digit

namespace SearchFilter.Yaml.Number

def negate : Binary64 → Binary64
  | .nan object => .nan object
  | .infinity negative => .infinity !negative
  | .finite negative significand exponent => .finite (!negative) significand exponent

/-- A number twice, or once and another: exact, then rounded. -/
def combine (f : Rat → Rat → Rat) : Binary64 → Binary64 → Binary64
  | .nan _, _ | _, .nan _ => Binary64.nanOfText
  | .infinity negative, _ | _, .infinity negative => .infinity negative
  | x, y => Binary64.ofRat (f (x.value?.getD 0) (y.value?.getD 0))

/-- The value of a digit: a decimal one of any script, or a letter from ten on. -/
def digitValue? (c : Char) : Option Nat :=
  match Text.decimalValue? c with
  | some n => some n
  | none =>
    let c := c.toLower
    if 'a' ≤ c ∧ c ≤ 'z' then some (c.toNat - 87) else none

/-- The number that digits to a base denote. -/
def natural? (base : Nat) (digits : List Char) : Option Nat :=
  if digits.isEmpty then none
  else digits.foldl (fun n? c => do
    let digit ← digitValue? c
    if base ≤ digit then none else pure (base * (← n?) + digit)) (some 0)

/-- The letters that may stand before digits to a base. -/
def baseMark? : Nat → Option Char
  | 2 => some 'b'
  | 8 => some 'o'
  | 16 => some 'x'
  | _ => none

/-- Digits without the mark of their base. -/
def dropBaseMark (base : Nat) : List Char → List Char
  | '0' :: mark :: rest =>
    if baseMark? base == some mark.toLower then rest else '0' :: mark :: rest
  | digits => digits

/-- The integer that a text denotes to a base. -/
def integer (base : Nat) (text : List Char) : Except ValueFault Int :=
  let (negative, digits) := Numeral.splitSign (Text.strip text)
  match natural? base (dropBaseMark base digits) with
  | none => .error (.noNumeral base (String.ofList text))
  | some n =>
    if base = 10 ∧ Numeral.maxDigits < digits.length then .error (.tooManyDigits digits.length)
    else .ok (if negative then -n else n)

/-- The floating-point number that a text denotes. -/
def floating (text : List Char) : Except ValueFault Binary64 :=
  let plain := (Text.strip text).map fun c =>
    ((Text.decimalValue? c).map fun n => Char.ofNat (48 + n)).getD c
  match Binary64.ofText? plain with
  | some x => .ok x
  | none => .error (.noFloat (String.ofList text))

/-- A text cut at each colon. -/
def places : List Char → List (List Char)
  | [] => [[]]
  | c :: rest => match places rest with
    | [] => [[c]]
    | place :: more => if c == ':' then [] :: place :: more else (c :: place) :: more

/-- The integer of places to base sixty, the highest first. -/
def sexagesimal (digits : List Int) : Int :=
  digits.foldl (fun n digit => 60 * n + digit) 0

/-- The floating-point number of places to base sixty, the lowest first: each is weighed and added
in turn. -/
def sexagesimalFloat : (weight : Nat) → (sum : Binary64) → List Binary64 → Binary64
  | _, sum, [] => sum
  | weight, sum, digit :: rest =>
    sexagesimalFloat (60 * weight)
      (combine (· + ·) sum (combine (· * ·) digit (.ofInt weight))) rest

/-- A text without low lines, and without a sign that is told apart. A sign needs a character. -/
def signed (text : String) : Except Failure (Bool × List Char) :=
  match text.toList.filter (· != '_') with
  | [] => .error (.outOfRange "string")
  | chars => .ok (Numeral.splitSign chars)

def failed {α : Type} (result : Except ValueFault α) : Except Failure α :=
  result.mapError .badValue

/-- The integer that a scalar denotes. -/
def readInt (text : String) : Except Failure Int := do
  let (negative, body) ← signed text
  let size ← match body with
    | [] => throw (.outOfRange "string")
    | ['0'] => pure 0
    | '0' :: 'b' :: digits => failed (integer 2 digits)
    | '0' :: 'x' :: digits => failed (integer 16 digits)
    | '0' :: _ => failed (integer 8 body)
    | _ =>
      if body.contains ':' then do
        pure (sexagesimal (← failed ((places body).mapM (integer 10))))
      else failed (integer 10 body)
  pure (if negative then -size else size)

/-- The floating-point number that a scalar denotes. -/
def readFloat (text : String) : Except Failure Binary64 := do
  let (negative, body) ← signed text
  let body := body.map Char.toLower
  let size ←
    if body == ".inf".toList then pure (.infinity false)
    else if body == ".nan".toList then pure Binary64.nanOfYaml
    else if body.contains ':' then do
      let digits ← failed ((places body).mapM floating)
      pure (sexagesimalFloat 1 (.ofInt 0) digits.reverse)
    else failed (floating body)
  pure (if negative then negate size else size)

end SearchFilter.Yaml.Number
