import SearchFilter.Number.Shortest
import SearchFilter.Number.Decimal

/-!
Numbers of three kinds, compared by their exact values whatever their kinds. A comparison with a
decimal non-number is refused where the decimal arithmetic refuses it; a floating non-number is
neither equal to nor less than anything.
-/

namespace SearchFilter

inductive Number
  | int (n : Int)
  | float (x : Binary64)
  | decimal (d : Decimal)
  deriving DecidableEq, Repr, Inhabited

/-- Where a number lies on the extended line. -/
inductive Position
  | below
  | at (q : Rat)
  | above
  | nowhere
  deriving DecidableEq

namespace Position

/-- Strictly to the left; a position nowhere is related to none. -/
def before : Position → Position → Bool
  | nowhere, _ | _, nowhere => false
  | below, below => false
  | below, _ => true
  | «at» p, «at» q => p < q
  | «at» _, above => true
  | _, _ => false

def coincides : Position → Position → Bool
  | below, below | above, above => true
  | «at» p, «at» q => p == q
  | _, _ => false

end Position

namespace Number

def position : Number → Position
  | int n => .at n
  | float (.nan _) => .nowhere
  | float (.infinity negative) => if negative then .below else .above
  | float x => match x.value? with
    | some q => .at q
    | none => .nowhere
  | decimal (.nan ..) => .nowhere
  | decimal (.infinity negative) => if negative then .below else .above
  | decimal d => match d.value? with
    | some q => .at q
    | none => .nowhere

/-- A decimal that signals when it is compared at all. -/
def signals : Number → Bool
  | decimal (.nan _ signaling _ _) => signaling
  | _ => false

def isDecimal : Number → Bool
  | decimal _ => true
  | _ => false

def isNan (n : Number) : Bool :=
  n.position == .nowhere

/-- Whether two numbers are one object, so far as it shows: those that are equal to nothing. -/
def identical (a b : Number) : Bool :=
  a.isNan && a == b

/-- Equality of values; `none` when a signalling non-number takes part. -/
def equal? (a b : Number) : Option Bool :=
  if a.signals || b.signals then none else some (a.position.coincides b.position)

/-- Order of values; `none` when decimal arithmetic is asked to order a non-number. -/
def less? (a b : Number) : Option Bool :=
  if (a.isDecimal || b.isDecimal) && (a.isNan || b.isNan) then none
  else some (a.position.before b.position)

/-- The text of a number in its own notation. -/
def text : Number → String
  | int n => toString n
  | float x => x.text
  | decimal d => d.text

/-- A floating-point number less an integer. -/
def floatMinus (x : Binary64) (n : Int) : Binary64 :=
  match x.value?, (Binary64.ofInt n).value? with
  | some q, some r => Binary64.ofRat (q - r)
  | _, _ => x

/-- A decimal number less an integer, with as many places as the decimal has. -/
def decimalMinus (d : Decimal) (n : Int) : Decimal :=
  match d with
  | .finite negative coefficient exponent =>
    let places := (-exponent).toNat
    let size : Int := coefficient * Nat.pow 10 exponent.toNat
    let rest := (if negative then -size else size) - n * Nat.pow 10 places
    .finite (rest < 0) rest.natAbs (min exponent 0)
  | other => other

/-- A number less an integer, of the same kind as the number. -/
def minus : Number → Int → Number
  | int m, n => int (m - n)
  | float x, n => float (floatMinus x n)
  | decimal d, n => decimal (decimalMinus d n)

/-- A number other than zero; a non-number counts as one. -/
def isTruthy : Number → Bool
  | int n => n != 0
  | float x => !x.isZero
  | decimal d => !d.isZero

end Number

end SearchFilter
