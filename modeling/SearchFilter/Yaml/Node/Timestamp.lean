import SearchFilter.Calendar
import SearchFilter.Number.Numeral

namespace SearchFilter.Yaml

/-- A text without one line feed behind it. -/
def dropLineFeed (text : String) : String :=
  match text.toList.reverse with
  | '\n' :: c :: rest => String.ofList (c :: rest).reverse
  | _ => text

/-- The fields of a date, perhaps with a time of day and a distance from universal time. -/
structure Timestamp where
  year : Nat
  month : Nat
  day : Nat
  wide : Bool
  time : Option (Nat × Nat × Nat)
  fraction : List Char
  offset : Option Int
  deriving Repr

namespace Timestamp

/-- The digits at the start of a text, from `least` to `most` of them, and the rest. -/
def digits? (least most : Nat) (text : List Char) : Option (List Char × List Char) :=
  let found := (text.take most).takeWhile Char.isDigit
  if found.length < least then none else some (found, text.drop found.length)

/-- The text behind a mark. -/
def behind? (mark : Char) : List Char → Option (List Char)
  | c :: rest => if c == mark then some rest else none
  | [] => none

def dropSpace (text : List Char) : List Char :=
  text.dropWhile fun c => c == ' ' || c == '\t'

/-- The text behind what parts a time from its date: a letter, or space. -/
def timeGap? : List Char → Option (List Char)
  | 'T' :: rest | 't' :: rest => some rest
  | ' ' :: rest | '\t' :: rest => some (dropSpace rest)
  | _ => none

/-- A distance from universal time at the end of a text; a letter stands for none at all. -/
def offset? (text : List Char) : Option (Option Int) :=
  if text.isEmpty then some none
  else match dropSpace text with
    | ['Z'] => some (some 0)
    | sign :: rest => do
      guard (sign == '-' || sign == '+')
      let (hours, rest) ← digits? 1 2 rest
      let (minutes, rest) ←
        if rest.isEmpty then pure ([], []) else digits? 2 2 (← behind? ':' rest)
      guard rest.isEmpty
      let seconds : Int := (Numeral.value hours * 60 + Numeral.value minutes) * 60
      pure (some (if sign == '-' then -seconds else seconds))
    | [] => none

/-- A fraction of a second at the start of a text. -/
def fractionAt : List Char → List Char × List Char
  | '.' :: rest => (rest.takeWhile Char.isDigit, rest.dropWhile Char.isDigit)
  | text => ([], text)

/-- The fields that a text gives, if it has the form of a date or moment. -/
def ofText? (text : List Char) : Option Timestamp := do
  let (year, rest) ← digits? 4 4 text
  let (month, rest) ← digits? 1 2 (← behind? '-' rest)
  let (day, rest) ← digits? 1 2 (← behind? '-' rest)
  let date : Timestamp := ⟨Numeral.value year, Numeral.value month, Numeral.value day,
    month.length == 2 && day.length == 2, none, [], none⟩
  if rest.isEmpty then pure date
  else
    let (hour, rest) ← digits? 1 2 (← timeGap? rest)
    let (minute, rest) ← digits? 2 2 (← behind? ':' rest)
    let (second, rest) ← digits? 2 2 (← behind? ':' rest)
    let (fraction, rest) := fractionAt rest
    let offset ← offset? rest
    let time := (Numeral.value hour, Numeral.value minute, Numeral.value second)
    pure { date with time := some time, fraction, offset }

/-- The form of a plain scalar that is a date or moment. -/
def isImplicit (t : Timestamp) : Bool :=
  t.time.isSome || t.wide

/-- The fraction of a second in whole microseconds. -/
def microsecond (t : Timestamp) : Nat :=
  let six := t.fraction.take 6
  Numeral.value (six ++ List.replicate (6 - six.length) '0')

/-- A distance of less than a day. -/
def checkOffset (seconds : Int) : Except CalendarFault Unit :=
  if seconds.natAbs < 86400 then .ok () else .error (.offset seconds)

/-- The date or moment of the fields. A distance out of range is found before any other fault. -/
def point (t : Timestamp) : Except CalendarFault (Date ⊕ Moment) := do
  t.offset.forM checkOffset
  let date ← Date.ofParts t.year t.month t.day
  match t.time with
  | none => pure (.inl date)
  | some (hour, minute, second) =>
    let time ← TimeOfDay.ofParts hour minute second t.microsecond
    pure (.inr ⟨date, time, t.offset⟩)

end Timestamp

end SearchFilter.Yaml
