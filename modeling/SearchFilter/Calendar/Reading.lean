import SearchFilter.Calendar
import SearchFilter.Number.Numeral

namespace SearchFilter

/-- The number that exactly `count` digits at the start of a text denote, and the rest. -/
def digitsAt? (count : Nat) (text : List Char) : Option (Nat × List Char) :=
  let digits := text.take count
  if digits.length = count ∧ digits.all Char.isDigit then
    some (Numeral.value digits, text.drop count)
  else none

/-- The text behind a given character at its start. -/
def dropChar? (mark : Char) : List Char → Option (List Char)
  | c :: rest => if c == mark then some rest else none
  | [] => none

/-- A date as year, month and day, each with its full width, and the rest of the text. -/
def Date.at? (text : List Char) : Option (Date × List Char) := do
  let (year, rest) ← digitsAt? 4 text
  let (month, rest) ← digitsAt? 2 (← dropChar? '-' rest)
  let (day, rest) ← digitsAt? 2 (← dropChar? '-' rest)
  match Date.ofParts year month day with
  | .ok date => some (date, rest)
  | .error _ => none

def Date.ofText? (text : String) : Option Date :=
  match Date.at? text.toList with
  | some (date, []) => some date
  | _ => none

/-- A number of two digits after a mark, if the mark is there. -/
def marked? (mark : Char) (text : List Char) : Option (Nat × List Char) :=
  (dropChar? mark text).bind (digitsAt? 2)

/-- A distance from universal time; `Z` is none at all. -/
def offsetOf? (text : List Char) : Option (Option Int) :=
  match text with
  | [] => some none
  | ['Z'] => some (some 0)
  | sign :: rest => do
    let unit : Int ← if sign == '+' then some 1 else if sign == '-' then some (-1) else none
    let (hours, rest) ← digitsAt? 2 rest
    let (minutes, rest) ← marked? ':' rest
    let (seconds, rest) := (marked? ':' rest).getD (0, rest)
    if rest.isEmpty then some (some (unit * ((hours * 60 + minutes) * 60 + seconds : Nat)))
    else none

/-- A fraction of a second as microseconds. -/
def fractionAt (text : List Char) : Nat × List Char :=
  match text with
  | '.' :: rest =>
    let digits := rest.takeWhile Char.isDigit
    let six := digits.take 6
    (Numeral.value (six ++ List.replicate (6 - six.length) '0'), rest.drop digits.length)
  | _ => (0, text)

/-- A moment out of a date, one separating character and a time, perhaps with an offset. -/
def Moment.ofText? (text : String) : Option Moment := do
  let (date, rest) ← Date.at? text.toList
  let (hour, rest) ← digitsAt? 2 (rest.drop 1)
  let (minute, rest) ← marked? ':' rest
  let (second, rest) := (marked? ':' rest).getD (0, rest)
  let (microsecond, rest) := fractionAt rest
  let offset ← offsetOf? rest
  match TimeOfDay.ofParts hour minute second microsecond with
  | .ok time => some ⟨date, time, offset⟩
  | .error _ => none

end SearchFilter
