import SearchFilter.Json.Problem
import SearchFilter.Number.Numeral
import SearchFilter.Value.Equality

/-!
Reading JSON. The grammar is the standard one, with the three words for an infinity of either sign
and for no number in addition; the last of several values under one name counts. A fault is
reported at the first place where no continuation could be right.
-/

namespace SearchFilter.Json

/-- The rest of a text and its offset. -/
structure Cursor where
  offset : Nat
  rest : List Char

/-- A fault at an offset, or the digits of an oversized integer. -/
inductive Stop
  | fault (fault : Fault) (offset : Nat)
  | tooManyDigits (count : Nat)

def isSpace (c : Char) : Bool :=
  c == ' ' || c == '\t' || c == '\n' || c == '\r'

/-- Moves over characters of a class. -/
def Cursor.skip (p : Char → Bool) : Nat → List Char → Cursor
  | offset, c :: rest => if p c then Cursor.skip p (offset + 1) rest else ⟨offset, c :: rest⟩
  | offset, [] => ⟨offset, []⟩

def Cursor.skipSpace (here : Cursor) : Cursor :=
  Cursor.skip isSpace here.offset here.rest

def hexValue? (c : Char) : Option Nat :=
  if '0' ≤ c ∧ c ≤ '9' then some (c.toNat - 48)
  else if 'a' ≤ c ∧ c ≤ 'f' then some (c.toNat - 87)
  else if 'A' ≤ c ∧ c ≤ 'F' then some (c.toNat - 55)
  else none

/-- The code that four hexadecimal digits at the start of a text denote. -/
def fourHex? : List Char → Option Nat
  | a :: b :: c :: d :: _ => do
    pure ((((← hexValue? a) * 16 + (← hexValue? b)) * 16 + (← hexValue? c)) * 16 + (← hexValue? d))
  | _ => none

def isHighSurrogate (code : Nat) : Bool :=
  0xd800 ≤ code && code ≤ 0xdbff

def isLowSurrogate (code : Nat) : Bool :=
  0xdc00 ≤ code && code ≤ 0xdfff

/-- The character of a code. Texts are made of whole characters, so half a pair that stands alone is read as
the replacement character. -/
def charOf (code : Nat) : Char :=
  if isHighSurrogate code || isLowSurrogate code then '\ufffd' else Char.ofNat code

/-- What a letter after a backslash stands for. -/
def simpleEscape? : Char → Option Char
  | '"' => some '"'
  | '\\' => some '\\'
  | '/' => some '/'
  | 'b' => some '\x08'
  | 'f' => some '\x0c'
  | 'n' => some '\n'
  | 'r' => some '\r'
  | 't' => some '\t'
  | _ => none

/-- The second half of a pair of code escapes, if a proper one follows. -/
def pairedLow? (offset : Nat) : List Char → Except Stop (Option Nat)
  | '\\' :: 'u' :: rest =>
    if rest.length < 5 then .ok none
    else match fourHex? rest with
      | some code => .ok (if isLowSurrogate code then some code else none)
      | none => .error (.fault .invalidCodeEscape (offset + 1))
  | _ => .ok none

/-- The characters of a text up to its closing quote. `start` is the offset of the opening one. -/
def scanText (start : Nat) : Nat → List Char → Cursor → Except Stop (String × Cursor)
  | 0, _, _ => .error (.fault .unterminatedText start)
  | fuel + 1, read, ⟨offset, rest⟩ =>
    match rest with
    | [] => .error (.fault .unterminatedText start)
    | '"' :: rest => .ok (String.ofList read.reverse, ⟨offset + 1, rest⟩)
    | ['\\'] => .error (.fault .unterminatedText start)
    | '\\' :: 'u' :: rest =>
      if rest.length < 5 then .error (.fault .invalidCodeEscape (offset + 1))
      else match fourHex? rest with
        | none => .error (.fault .invalidCodeEscape (offset + 1))
        | some code =>
          let after : Cursor := ⟨offset + 6, rest.drop 4⟩
          if isHighSurrogate code then
            match pairedLow? after.offset after.rest with
            | .error stop => .error stop
            | .ok none => scanText start fuel (charOf code :: read) after
            | .ok (some low) =>
              let joined := Char.ofNat (0x10000 + (code - 0xd800) * 0x400 + (low - 0xdc00))
              scanText start fuel (joined :: read) ⟨after.offset + 6, after.rest.drop 6⟩
          else scanText start fuel (charOf code :: read) after
    | '\\' :: c :: rest =>
      match simpleEscape? c with
      | some meant => scanText start fuel (meant :: read) ⟨offset + 2, rest⟩
      | none => .error (.fault .invalidEscape offset)
    | c :: rest =>
      if c.toNat ≤ 0x1f then .error (.fault .controlCharacter offset)
      else scanText start fuel (c :: read) ⟨offset + 1, rest⟩

/-- The parts of a number at the start of a text: whole digits, fraction, exponent. -/
structure NumberParts where
  negative : Bool
  whole : List Char
  fraction : Option (List Char)
  exponent : Option Int

/-- An exponent with at least one digit, and how many characters it takes. -/
def exponentAt? : List Char → Option (Int × Nat)
  | mark :: rest =>
    if mark == 'e' || mark == 'E' then
      let (sign, width, rest) := match rest with
        | '-' :: more => ((-1 : Int), 2, more)
        | '+' :: more => (1, 2, more)
        | more => (1, 1, more)
      let digits := rest.takeWhile Char.isDigit
      if digits.isEmpty then none
      else some (sign * Numeral.value digits, width + digits.length)
    else none
  | [] => none

/-- The number at the start of a text, and how many characters it takes. -/
def numberAt? (text : List Char) : Option (NumberParts × Nat) :=
  let (negative, sign, body) := match text with
    | '-' :: rest => (true, 1, rest)
    | rest => (false, 0, rest)
  let whole := match body with
    | '0' :: _ => ['0']
    | rest => rest.takeWhile Char.isDigit
  if whole.isEmpty then none
  else
    let rest := body.drop whole.length
    let fraction := match rest with
      | '.' :: more =>
        let digits := more.takeWhile Char.isDigit
        if digits.isEmpty then none else some digits
      | _ => none
    let width := match fraction with
      | some digits => digits.length + 1
      | none => 0
    let exponent := exponentAt? (rest.drop width)
    let total := sign + whole.length + width + (exponent.map (·.2)).getD 0
    some (⟨negative, whole, fraction, exponent.map (·.1)⟩, total)

/-- The value of a number: an integer without fraction and exponent, else a floating one. -/
def NumberParts.value (parts : NumberParts) : Except Stop Value :=
  match parts.fraction, parts.exponent with
  | none, none =>
    if Numeral.maxDigits < parts.whole.length then .error (.tooManyDigits parts.whole.length)
    else
      let size : Int := Numeral.value parts.whole
      .ok (.int (if parts.negative then -size else size))
  | fraction, exponent =>
    let places := fraction.getD []
    .ok (.float (Binary64.ofDecimal parts.negative (Numeral.value (parts.whole ++ places))
      (exponent.getD 0 - places.length)))

/-- The words that stand for values. -/
def keywords : List (List Char × Value) :=
  [("null".toList, .null), ("true".toList, .bool true), ("false".toList, .bool false),
    ("NaN".toList, .float Binary64.nanOfJson), ("Infinity".toList, .float (.infinity false)),
    ("-Infinity".toList, .float (.infinity true))]

/-- A word or number at the start of a text. -/
def scanAtom (here : Cursor) : Except Stop (Value × Cursor) :=
  match keywords.find? fun word => word.1.isPrefixOf here.rest with
  | some (word, value) => .ok (value, ⟨here.offset + word.length, here.rest.drop word.length⟩)
  | none => match numberAt? here.rest with
    | none => .error (.fault .expectedValue here.offset)
    | some (parts, width) => match parts.value with
      | .ok value => .ok (value, ⟨here.offset + width, here.rest.drop width⟩)
      | .error stop => .error stop

mutual

/-- The value at the cursor. -/
def scanValue : Nat → Cursor → Except Stop (Value × Cursor)
  | 0, here => .error (.fault .expectedValue here.offset)
  | fuel + 1, here =>
    match here.rest with
    | '"' :: rest => do
      let (text, next) ← scanText here.offset (rest.length + 1) [] ⟨here.offset + 1, rest⟩
      pure (.text text, next)
    | '[' :: rest =>
      let next := Cursor.skipSpace ⟨here.offset + 1, rest⟩
      match next.rest with
      | ']' :: after => .ok (.list [], ⟨next.offset + 1, after⟩)
      | _ => scanItems fuel [] next
    | '\x7b' :: rest =>
      let next := Cursor.skipSpace ⟨here.offset + 1, rest⟩
      match next.rest with
      | '\x7d' :: after => .ok (.map [], ⟨next.offset + 1, after⟩)
      | _ => scanEntries fuel [] next
    | _ => scanAtom here

/-- The items of a list from the cursor to its end, after those read before. -/
def scanItems : Nat → List Value → Cursor → Except Stop (Value × Cursor)
  | 0, _, here => .error (.fault .expectedValue here.offset)
  | fuel + 1, read, here => do
    let (item, next) ← scanValue fuel here
    let next := next.skipSpace
    match next.rest with
    | ']' :: rest => pure (.list (item :: read).reverse, ⟨next.offset + 1, rest⟩)
    | ',' :: rest => scanItems fuel (item :: read) (Cursor.skipSpace ⟨next.offset + 1, rest⟩)
    | _ => .error (.fault .expectedComma next.offset)

/-- The entries of a mapping from the cursor to its end, after those read before. -/
def scanEntries : Nat → List (Value × Value) → Cursor → Except Stop (Value × Cursor)
  | 0, _, here => .error (.fault .expectedName here.offset)
  | fuel + 1, read, here =>
    match here.rest with
    | '"' :: rest => do
      let (name, next) ← scanText here.offset (rest.length + 1) [] ⟨here.offset + 1, rest⟩
      let next := next.skipSpace
      match next.rest with
      | ':' :: rest => do
        let (value, next) ← scanValue fuel (Cursor.skipSpace ⟨next.offset + 1, rest⟩)
        let next := next.skipSpace
        let read := (.text name, value) :: read
        match next.rest with
        | '\x7d' :: rest =>
          pure (.map (Value.collectEntries read.reverse), ⟨next.offset + 1, rest⟩)
        | ',' :: rest => scanEntries fuel read (Cursor.skipSpace ⟨next.offset + 1, rest⟩)
        | _ => .error (.fault .expectedComma next.offset)
      | _ => .error (.fault .expectedColon next.offset)
    | _ => .error (.fault .expectedName here.offset)

end

/-- The value that a text denotes. -/
def parse (text : String) : Except Problem Value :=
  let chars := text.toList
  let problem := fun (stop : Stop) => match stop with
    | .fault fault offset => Problem.broken (Syntax.at fault chars offset)
    | .tooManyDigits count => Problem.tooManyDigits count
  if chars.head? == some '\ufeff' then .error (problem (.fault .byteOrderMark 0))
  else
    match scanValue (2 * chars.length + 2) (Cursor.skipSpace ⟨0, chars⟩) with
    | .error stop => .error (problem stop)
    | .ok (value, next) =>
      let next := next.skipSpace
      if next.rest.isEmpty then .ok value
      else .error (problem (.fault .extraData next.offset))

end SearchFilter.Json
