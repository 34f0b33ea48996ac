/-!
Decimal numerals as integers. A numeral of more than 4300 digits is refused, and an integer that
would take more is not written out: the time that either takes grows with the square of the length.
-/

namespace SearchFilter.Numeral

/-- The most digits that a numeral may have. -/
def maxDigits : Nat := 4300

/-- Whether an integer is short enough to be written out. -/
def isWritable (n : Int) : Bool :=
  (Nat.toDigits 10 n.natAbs).length ≤ maxDigits

/-- The number that ASCII digits denote. -/
def value (digits : List Char) : Nat :=
  digits.foldl (fun n c => 10 * n + (c.toNat - 48)) 0

/-- Why a numeral with too many digits is refused. -/
def tooManyDigitsMessage (count : Nat) : String :=
  "Exceeds the limit (4300 digits) for integer string conversion: value has " ++
    toString count ++ " digits; use sys.set_int_max_str_digits() to increase the limit"

/-- Why an integer is not written out. -/
def notWritableMessage : String :=
  "Exceeds the limit (4300 digits) for integer string conversion; " ++
    "use sys.set_int_max_str_digits() to increase the limit"

end SearchFilter.Numeral
