import SearchFilter.Number.Binary64

namespace SearchFilter.Binary64

/-- The bounds of the reals that round to a positive number, and the number itself, all as
multiples of a quarter of its last place, with the exponent of that quarter. -/
structure Neighbourhood where
  low : Nat
  centre : Nat
  high : Nat
  exponent : Int
  closed : Bool

def neighbourhood (significand : Nat) (exponent : Int) : Neighbourhood :=
  let below := if significand = Nat.pow 2 52 ∧ minExponent < exponent then 1 else 2
  { low := 4 * significand - below
    centre := 4 * significand
    high := 4 * significand + 2
    exponent := exponent - 2
    closed := significand % 2 == 0 }

/-- Both sides of a comparison of `quarters · 2^exponent` with `digits · 10^place`, made whole. -/
def balance (quarters : Nat) (exponent : Int) (digits : Nat) (place : Int) : Nat × Nat :=
  (quarters * Nat.pow 2 exponent.toNat * Nat.pow 10 (-place).toNat,
    digits * Nat.pow 10 place.toNat * Nat.pow 2 (-exponent).toNat)

/-- The decimal `digits · 10^place` rounds to the number. -/
def Neighbourhood.contains (n : Neighbourhood) (digits : Nat) (place : Int) : Bool :=
  let (low, here) := balance n.low n.exponent digits place
  let (high, here') := balance n.high n.exponent digits place
  if n.closed then low ≤ here && here' ≤ high else low < here && here' < high

/-- The greatest multiple of `10^place` up to the number, in units of `10^place`. -/
def Neighbourhood.floorAt (n : Neighbourhood) (place : Int) : Nat :=
  let (top, bottom) := balance n.centre n.exponent 1 place
  top / bottom

/-- The lower of two neighbouring decimals is the nearer one; a tie goes to the even one. -/
def Neighbourhood.prefersLower (n : Neighbourhood) (digits : Nat) (place : Int) : Bool :=
  let (twice, middle) := balance (2 * n.centre) n.exponent (2 * digits + 1) place
  if twice = middle then digits % 2 == 0 else twice < middle

/-- The decimal on one grid that rounds to the number and is nearest to it. -/
def Neighbourhood.onGrid? (n : Neighbourhood) (place : Int) : Option Nat :=
  let lower := n.floorAt place
  match n.contains lower place, n.contains (lower + 1) place with
  | true, true => some (if n.prefersLower lower place then lower else lower + 1)
  | true, false => some lower
  | false, true => some (lower + 1)
  | false, false => none

/-- The first grid with a hit, from a coarse place downwards. -/
def Neighbourhood.search (n : Neighbourhood) : Nat → Int → Nat × Int
  | 0, place => (n.floorAt place, place)
  | grids + 1, place =>
    match n.onGrid? place with
    | some digits => (digits, place)
    | none => n.search grids (place - 1)

/-- A place at or one above that of the leading digit. -/
def leadingPlace (significand : Nat) (exponent : Int) : Int :=
  ((significand.log2 : Int) + exponent + 1) * 30103 / 100000 + 1

/-- Digits without the zeros at their end, and the place of the last digit kept. -/
def trimZeros : Nat → Nat → Int → Nat × Int
  | 0, digits, place => (digits, place)
  | fuel + 1, digits, place =>
    if digits ≠ 0 ∧ digits % 10 = 0 then trimZeros fuel (digits / 10) (place + 1)
    else (digits, place)

/-- The shortest digits of a positive number, and the place of the last of them. -/
def shortest (significand : Nat) (exponent : Int) : Nat × Int :=
  let (digits, place) :=
    (neighbourhood significand exponent).search 20 (leadingPlace significand exponent)
  trimZeros 20 digits place

/-- A decimal exponent with its sign and at least two digits. -/
def exponentText (exponent : Int) : String :=
  let size := toString exponent.natAbs
  (if exponent < 0 then "-" else "+") ++ (if exponent.natAbs < 10 then "0" ++ size else size)

/-- Digits in positional notation, always with a point. -/
def positional (digits : List Char) (pointAt : Int) : String :=
  if pointAt ≤ 0 then
    "0." ++ String.ofList (List.replicate (-pointAt).toNat '0' ++ digits)
  else
    let whole := digits.take pointAt.toNat ++
      List.replicate (pointAt.toNat - digits.length) '0'
    let fraction := digits.drop pointAt.toNat
    String.ofList whole ++ "." ++ (if fraction.isEmpty then "0" else String.ofList fraction)

/-- Digits in exponent notation; a single digit stands without a point. -/
def exponential (digits : List Char) (exponent : Int) : String :=
  match digits with
  | [] => "0"
  | [digit] => digit.toString ++ "e" ++ exponentText exponent
  | digit :: rest => digit.toString ++ "." ++ String.ofList rest ++ "e" ++ exponentText exponent

/-- The text of a number: positional for decimal exponents from -4 to 15, else with an exponent. -/
def text : Binary64 → String
  | nan _ => "nan"
  | infinity negative => if negative then "-inf" else "inf"
  | finite negative significand exponent =>
    let sign := if negative then "-" else ""
    if significand = 0 then sign ++ "0.0"
    else
      let (digits, place) := shortest significand exponent
      let shown := (toString digits).toList
      let leading := place + shown.length - 1
      if -4 ≤ leading ∧ leading < 16 then sign ++ positional shown (leading + 1)
      else sign ++ exponential shown leading

end SearchFilter.Binary64
