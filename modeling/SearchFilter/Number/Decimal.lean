/-!
Decimal numbers with their own precision: a coefficient and a power of ten, so that 1.5 and 1.50
are one value with two texts. Beside the infinities there are quiet and signalling non-numbers, each
of which says which object it is.
-/

namespace SearchFilter

inductive Decimal
  | finite (negative : Bool) (coefficient : Nat) (exponent : Int)
  | infinity (negative : Bool)
  | nan (negative signaling : Bool) (payload : String) (object : Nat)
  deriving DecidableEq, Repr, Inhabited

namespace Decimal

/-- The exact value; only a finite number has one. -/
def value? : Decimal → Option Rat
  | finite negative coefficient exponent =>
    let size : Rat :=
      if 0 ≤ exponent then ((coefficient * Nat.pow 10 exponent.toNat : Nat) : Rat)
      else mkRat coefficient (Nat.pow 10 (-exponent).toNat)
    some (if negative then -size else size)
  | _ => none

def isZero : Decimal → Bool
  | finite _ coefficient _ => coefficient == 0
  | _ => false

def signText (negative : Bool) : String :=
  if negative then "-" else ""

/-- The coefficient's digits with the point after `pointAt` of them. -/
def pointed (digits : List Char) (pointAt : Int) : String :=
  if pointAt ≤ 0 then "0." ++ String.ofList (List.replicate (-pointAt).toNat '0' ++ digits)
  else if (digits.length : Int) ≤ pointAt then
    String.ofList (digits ++ List.replicate (pointAt.toNat - digits.length) '0')
  else String.ofList (digits.take pointAt.toNat) ++ "." ++
    String.ofList (digits.drop pointAt.toNat)

/-- The text of a number: positional while the exponent is not positive and fewer than six zeros
follow the point, else with one digit before the point and an exponent. -/
def text : Decimal → String
  | infinity negative => signText negative ++ "Infinity"
  | nan negative signaling payload _ =>
    signText negative ++ (if signaling then "sNaN" else "NaN") ++ payload
  | finite negative coefficient exponent =>
    let digits := (toString coefficient).toList
    let left := exponent + digits.length
    let pointAt := if exponent ≤ 0 ∧ -6 < left then left else 1
    let shift := left - pointAt
    let tail :=
      if shift = 0 then ""
      else "E" ++ (if 0 < shift then "+" else "") ++ toString shift
    signText negative ++ pointed digits pointAt ++ tail

/-- Reads decimal digits, perhaps with a point, and perhaps an exponent. -/
def readFinite? (negative : Bool) (text : List Char) : Option Decimal :=
  let whole := text.takeWhile Char.isDigit
  let afterWhole := text.dropWhile Char.isDigit
  let (fraction, rest) := match afterWhole with
    | '.' :: more => (more.takeWhile Char.isDigit, more.dropWhile Char.isDigit)
    | other => ([], other)
  let digits := whole ++ fraction
  let coefficient := digits.foldl (fun value c => 10 * value + (c.toNat - 48)) 0
  let exponent? : Option Int := match rest with
    | [] => some 0
    | mark :: more =>
      if mark == 'e' || mark == 'E' then
        match more with
        | '-' :: size => (String.ofList size).toNat?.map fun n => -(n : Int)
        | '+' :: size => (String.ofList size).toNat?.map fun n => (n : Int)
        | size => (String.ofList size).toNat?.map fun n => (n : Int)
      else none
  if digits.isEmpty then none
  else exponent?.map fun exponent => finite negative coefficient (exponent - fraction.length)

/-- Reads the text of a decimal number. -/
def ofText? (text : String) : Option Decimal :=
  let (negative, body) := match text.toList with
    | '-' :: rest => (true, rest)
    | '+' :: rest => (false, rest)
    | rest => (false, rest)
  match (String.ofList body).toLower with
  | "infinity" | "inf" => some (infinity negative)
  | lowered =>
    if lowered.startsWith "nan" then
      some (nan negative false (String.ofList (body.drop 3)) 0)
    else if lowered.startsWith "snan" then
      some (nan negative true (String.ofList (body.drop 4)) 0)
    else readFinite? negative body

end Decimal

end SearchFilter
