import SearchFilter.Number.Binary64
import SearchFilter.Number.Numeral

namespace SearchFilter.Numeral

/-- A text without its underscores, if each of them stands alone and inside the text. -/
def withoutUnderscores? (text : List Char) : Option (List Char) :=
  let rec scan : Char → List Char → Option (List Char)
    | last, [] => if last == '_' then none else some []
    | last, c :: rest =>
      if c == '_' then (if last == '_' then none else scan c rest)
      else (scan c rest).map (c :: ·)
  match text with
  | [] => some []
  | c :: rest => if c == '_' then none else (scan c rest).map (c :: ·)

/-- A sign at the start of a text: whether it is a minus, and the rest. -/
def splitSign : List Char → Bool × List Char
  | '-' :: rest => (true, rest)
  | '+' :: rest => (false, rest)
  | rest => (false, rest)

/-- The integer that signed ASCII digits denote. -/
def integer? (text : List Char) : Option Int :=
  let (negative, digits) := splitSign text
  if digits.isEmpty || !digits.all Char.isDigit then none
  else
    let size : Int := value digits
    some (if negative then -size else size)

end SearchFilter.Numeral

namespace SearchFilter.Binary64

/-- The exponent after the digits of a number; a text without one has exponent zero. -/
def readExponent? : List Char → Option Int
  | [] => some 0
  | mark :: rest => if mark == 'e' || mark == 'E' then Numeral.integer? rest else none

/-- The number that unsigned text denotes: a word, or digits with a point and an exponent. -/
def readUnsigned? (negative : Bool) (text : List Char) : Option Binary64 :=
  let word := text.map Char.toLower
  if word == "inf".toList || word == "infinity".toList then some (infinity negative)
  else if word == "nan".toList then some nanOfText
  else
    let whole := text.takeWhile Char.isDigit
    let (fraction, rest) := match text.dropWhile Char.isDigit with
      | '.' :: more => (more.takeWhile Char.isDigit, more.dropWhile Char.isDigit)
      | other => ([], other)
    if whole.isEmpty && fraction.isEmpty then none
    else (readExponent? rest).map fun exponent =>
      ofDecimal negative (Numeral.value (whole ++ fraction)) (exponent - fraction.length)

/-- The floating-point number nearest to what a text denotes. -/
def ofText? (text : List Char) : Option Binary64 :=
  let (negative, rest) := Numeral.splitSign text
  readUnsigned? negative rest

end SearchFilter.Binary64
