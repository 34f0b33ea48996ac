import SearchFilter.Yaml.Token
import SearchFilter.Yaml.Token.Scalar

namespace SearchFilter.Yaml.Name

/-- A character that may follow the name of an anchor. -/
def endsAnchor : Option Char → Bool :=
  orEnd fun c => isSpaceOrTab c || isBreak c || "?:,]\x7d%@`".toList.contains c

/-- The name of an anchor or reference; the place is at its mark. -/
def anchor (here : Cursor) : Except Problem (String × Cursor) :=
  let here := here.next
  let name := here.run isWordChar
  let last := here.skip isWordChar
  if name.isEmpty || !endsAnchor last.peek? then .error (.broken .tokens)
  else .ok (String.ofList name, last)

/-- A character that may stand in the text behind a handle. -/
def isTagChar (c : Char) : Bool :=
  c.isAlphanum || "-;/?:@&=+$,_.!~*'()[]".toList.contains c

/-- The bytes of escapes that stand side by side. -/
def escapedBytes : Nat → Cursor → Except Problem (List UInt8 × Cursor)
  | 0, here => .ok ([], here)
  | fuel + 1, here =>
    match here.rest with
    | '%' :: a :: b :: _ => match Scalar.hexNumber? [a, b] with
      | some code =>
        (escapedBytes fuel (here.forward 3)).map fun (more, last) => (code.toUInt8 :: more, last)
      | none => .error (.broken .tokens)
    | '%' :: _ => .error (.broken .tokens)
    | _ => .ok ([], here)

/-- The characters that escaped bytes encode. -/
def escapedText (here : Cursor) : Except Problem (List Char × Cursor) := do
  let (bytes, last) ← escapedBytes (here.rest.length + 1) here
  match String.fromUTF8? ⟨bytes.toArray⟩ with
  | some text => pure (text.toList, last)
  | none => throw (.broken .tokens)

/-- The text of a tag behind its handle, in pieces. -/
def tagPieces : Nat → Cursor → Except Problem (List Char × Cursor)
  | 0, here => .ok ([], here)
  | fuel + 1, here =>
    match here.peek? with
    | none => .ok ([], here)
    | some c => do
      if c == '%' then
        let (chars, next) ← escapedText here
        let (more, last) ← tagPieces fuel next
        pure (chars ++ more, last)
      else if isTagChar c then
        let (more, last) ← tagPieces fuel here.next
        pure (c :: more, last)
      else pure ([], here)

/-- The text of a tag behind its handle, which is not empty. -/
def tagText (here : Cursor) : Except Problem (String × Cursor) := do
  let (chars, last) ← tagPieces (here.rest.length + 1) here
  if last.offset == here.offset then throw (.broken .tokens)
  pure (String.ofList chars, last)

/-- A handle: one mark, or a word between two. -/
def handle (here : Cursor) : Except Problem (String × Cursor) :=
  if here.peek? != some '!' then .error (.broken .tokens)
  else if here.peekAfter? 1 == some ' ' then .ok ("!", here.next)
  else
    let word := here.next.run isWordChar
    let last := here.next.skip isWordChar
    if last.peek? == some '!' then .ok (String.ofList (('!' :: word) ++ ['!']), last.next)
    else .error (.broken .tokens)

/-- A second mark stands in the word at the place. -/
def hasHandle (here : Cursor) : Bool :=
  let word := here.next.run fun c => !(c == ' ' || isBreak c)
  word.contains '!'

/-- A tag as it is written; the place is at its mark. -/
def tag (here : Cursor) : Except Problem (TagName × Cursor) := do
  let after := here.peekAfter? 1
  let (name, last) ←
    if after == some '<' then do
      let (suffix, last) ← tagText (here.forward 2)
      if last.peek? != some '>' then throw (.broken .tokens)
      pure (TagName.mk none suffix, last.next)
    else if isGap after then pure (TagName.mk none "!", here.next)
    else do
      let (name, next) ← if hasHandle here then handle here else pure ("!", here.next)
      let (suffix, last) ← tagText next
      pure (TagName.mk (some name) suffix, last)
  if isSpaceOrEnd last.peek? then pure (name, last) else throw (.broken .tokens)

/-- A number of a version. -/
def versionNumber (here : Cursor) : Except Problem (Nat × Cursor) :=
  let digits := here.run Char.isDigit
  if digits.isEmpty then .error (.broken .tokens)
  else if Numeral.maxDigits < digits.length then
    .error (.failed (.badValue (.tooManyDigits digits.length)))
  else .ok (Numeral.value digits, here.skip Char.isDigit)

/-- The version that a text says it is written in. -/
def version (here : Cursor) : Except Problem (Pragma × Cursor) := do
  let (major, here) ← versionNumber (here.skip (· == ' '))
  if here.peek? != some '.' then throw (.broken .tokens)
  let (_, here) ← versionNumber here.next
  if !isSpaceOrEnd here.peek? then throw (.broken .tokens)
  pure (.version major, here)

/-- A handle and what it stands for. -/
def handleLine (here : Cursor) : Except Problem (Pragma × Cursor) := do
  let (name, here) ← handle (here.skip (· == ' '))
  if here.peek? != some ' ' then throw (.broken .tokens)
  let (target, here) ← tagText (here.skip (· == ' '))
  if !isSpaceOrEnd here.peek? then throw (.broken .tokens)
  pure (.handle name target, here)

/-- A line about the document; the place is at its mark. -/
def pragma (here : Cursor) : Except Problem (Pragma × Cursor) := do
  let here := here.next
  let name := here.run isWordChar
  let here := here.skip isWordChar
  if name.isEmpty || !isSpaceOrEnd here.peek? then throw (.broken .tokens)
  let (p, here) ← match String.ofList name with
    | "YAML" => version here
    | "TAG" => handleLine here
    | _ => pure (Pragma.unknown, here.skip fun c => !isBreak c)
  let here ← Scalar.emptyLine here
  pure (p, here)

end SearchFilter.Yaml.Name
