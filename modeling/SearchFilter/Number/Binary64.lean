/-!
Floating-point numbers of 64 bits, held as their exact values. Rounding takes the nearest
representable number, and of two equally near ones the one with the even significand, so every
number read from text or from an integer is the number that the standard prescribes.
-/

namespace SearchFilter

/-- A floating-point number: a significand below 2^53 times a power of two from 2^-1074 to 2^971,
an infinity, or no number at all. What is no number is equal to nothing, and is still found where it
was put, so it says which object it is. -/
inductive Binary64
  | nan (object : Nat)
  | infinity (negative : Bool)
  | finite (negative : Bool) (significand : Nat) (exponent : Int)
  deriving DecidableEq, Repr, Inhabited

namespace Binary64

/-- What is no number in JSON is one object, wherever it stands. -/
def nanOfJson : Binary64 := nan 0

/-- So it is in YAML. -/
def nanOfYaml : Binary64 := nan 1

/-- What a text says is no number. Each reading makes an object, which are not told apart here. -/
def nanOfText : Binary64 := nan 2

/-- The least exponent of a significand. -/
def minExponent : Int := -1074

/-- The greatest exponent of a significand. -/
def maxExponent : Int := 971

/-- The quotient rounded to the nearest integer, ties to the even one. -/
def roundQuotient (numerator denominator : Nat) : Nat :=
  let floor := numerator / denominator
  let rest := numerator % denominator
  if 2 * rest < denominator then floor
  else if denominator < 2 * rest then floor + 1
  else floor + floor % 2

/-- A quotient divided by a power of two, as numerator and denominator. -/
def scaled (numerator denominator : Nat) (exponent : Int) : Nat × Nat :=
  if 0 ≤ exponent then (numerator, denominator * Nat.pow 2 exponent.toNat)
  else (numerator * Nat.pow 2 (-exponent).toNat, denominator)

/-- The exponent that gives a positive quotient a significand of 53 bits, or the least exponent
where that is greater. -/
def exponentFor (numerator denominator : Nat) : Int :=
  let guess : Int := (numerator.log2 : Int) - denominator.log2 - 52
  let (top, bottom) := scaled numerator denominator guess
  max minExponent (if top / bottom < Nat.pow 2 52 then guess - 1 else guess)

/-- The number nearest to a quotient with a positive denominator. -/
def nearest (negative : Bool) (numerator denominator : Nat) : Binary64 :=
  if numerator = 0 then finite negative 0 minExponent
  else
    let exponent := exponentFor numerator denominator
    let (top, bottom) := scaled numerator denominator exponent
    let significand := roundQuotient top bottom
    let (significand, exponent) :=
      if significand = Nat.pow 2 53 then (Nat.pow 2 52, exponent + 1) else (significand, exponent)
    if maxExponent < exponent then infinity negative else finite negative significand exponent

/-- The number nearest to `digits · 10^exponent`. Beyond a thousand places on either side the
result no longer depends on the digits. -/
def ofDecimal (negative : Bool) (digits : Nat) (exponent : Int) : Binary64 :=
  let magnitude := exponent + (digits.log2 * 3 / 10 : Nat)
  if digits = 0 then finite negative 0 minExponent
  else if 1000 < magnitude then infinity negative
  else if magnitude < -1000 - (digits.log2 / 10 : Nat) then finite negative 0 minExponent
  else if 0 ≤ exponent then nearest negative (digits * Nat.pow 10 exponent.toNat) 1
  else nearest negative digits (Nat.pow 10 (-exponent).toNat)

/-- The number nearest to an integer. -/
def ofInt (n : Int) : Binary64 :=
  nearest (n < 0) n.natAbs 1

/-- The number nearest to a quotient. -/
def ofRat (q : Rat) : Binary64 :=
  nearest (q < 0) q.num.natAbs q.den

/-- The exact value; an infinity or no number has none. -/
def value? : Binary64 → Option Rat
  | finite negative significand exponent =>
    let size : Rat :=
      if 0 ≤ exponent then ((significand * Nat.pow 2 exponent.toNat : Nat) : Rat)
      else mkRat significand (Nat.pow 2 (-exponent).toNat)
    some (if negative then -size else size)
  | _ => none

/-- The integer that the number is, if it is one. -/
def toInt? (x : Binary64) : Option Int :=
  match x.value? with
  | some q => if q.den = 1 then some q.num else none
  | none => none

def isFinite : Binary64 → Bool
  | finite .. => true
  | _ => false

def isZero : Binary64 → Bool
  | finite _ significand _ => significand == 0
  | _ => false

end Binary64

end SearchFilter
