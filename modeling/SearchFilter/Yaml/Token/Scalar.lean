import SearchFilter.Json.Reader
import SearchFilter.Yaml.Cursor
import SearchFilter.Yaml.Problem

namespace SearchFilter.Yaml.Scalar

/-- A line end and the ones after it, folded: a single line feed becomes a space. -/
def folded (first : Char) (more : List Char) : List Char :=
  if first != '\n' then first :: more
  else if more.isEmpty then [' ']
  else more

/-! ### Between quotes -/

/-- The line ends after one inside quotes, without the spaces around them. -/
def quotedBreaks : Nat → Cursor → Except Problem (List Char × Cursor)
  | 0, here => .ok ([], here)
  | fuel + 1, here =>
    if here.atDocumentMark then .error (.broken .tokens)
    else
      let here := here.skip isSpaceOrTab
      match here.breakAt? with
      | none => .ok ([], here)
      | some (c, next) => (quotedBreaks fuel next).map fun (more, last) => (c :: more, last)

/-- Space inside quotes: kept within a line, folded around line ends. -/
def quotedSpace (here : Cursor) : Except Problem (List Char × Cursor) :=
  let space := here.run isSpaceOrTab
  let here := here.skip isSpaceOrTab
  match here.breakAt? with
  | none => if here.atEnd then .error (.broken .tokens) else .ok (space, here)
  | some (c, next) =>
    (quotedBreaks (next.rest.length + 1) next).map fun (more, last) => (folded c more, last)

/-- What a letter after a backslash stands for. -/
def simpleEscape? : Char → Option Char
  | '0' => some '\x00'
  | 'a' => some '\x07'
  | 'b' => some '\x08'
  | 't' => some '\t'
  | '\t' => some '\t'
  | 'n' => some '\n'
  | 'v' => some '\x0b'
  | 'f' => some '\x0c'
  | 'r' => some '\r'
  | 'e' => some '\x1b'
  | ' ' => some ' '
  | '"' => some '"'
  | '\\' => some '\\'
  | '/' => some '/'
  | 'N' => some '\u0085'
  | '_' => some '\u00a0'
  | 'L' => some '\u2028'
  | 'P' => some '\u2029'
  | _ => none

/-- How many hexadecimal digits follow a letter after a backslash. -/
def codeWidth? : Char → Option Nat
  | 'x' => some 2
  | 'u' => some 4
  | 'U' => some 8
  | _ => none

/-- The number that hexadecimal digits denote. -/
def hexNumber? (digits : List Char) : Option Nat :=
  digits.foldl (fun n? c => do pure (16 * (← n?) + (← Json.hexValue? c))) (some 0)

/-- The character of a code, if there is one. -/
def charOf (code : Nat) : Except Problem Char :=
  if code < 0x110000 then .ok (Json.charOf code)
  else if code < 0x80000000 then .error (.failed (.badValue .noCharacter))
  else .error (.failed .tooLarge)

/-- A code of so many hexadecimal digits. -/
def codeEscape (width : Nat) (here : Cursor) : Except Problem (List Char × Cursor) :=
  let digits := here.rest.take width
  if digits.length < width then .error (.broken .tokens)
  else match hexNumber? digits with
    | none => .error (.broken .tokens)
    | some code => (charOf code).map fun c => ([c], here.forward width)

/-- What a backslash before the place makes of what follows. -/
def escape (here : Cursor) : Except Problem (List Char × Cursor) :=
  match here.rest with
  | [] => .error (.broken .tokens)
  | c :: _ => match simpleEscape? c with
    | some meant => .ok ([meant], here.next)
    | none => match codeWidth? c with
      | some width => codeEscape width here.next
      | none =>
        if isBreak c then quotedBreaks here.rest.length here.next
        else .error (.broken .tokens)

/-- A step inside quotes: the characters that it gives and the place after it, or the place after
the closing quote. A quote between single quotes is written twice. -/
def quotedStep (quote : Char) (here : Cursor) : Except Problem (Option (List Char) × Cursor) :=
  match here.rest with
  | [] => .error (.broken .tokens)
  | c :: rest =>
    if isSpaceOrTab c || isBreak c then
      (quotedSpace here).map fun (chars, next) => (some chars, next)
    else if c == quote then
      if quote == '\'' && rest.head? == some '\'' then .ok (some ['\''], here.forward 2)
      else .ok (none, here.next)
    else if quote == '"' && c == '\\' then
      (escape here.next).map fun (chars, next) => (some chars, next)
    else .ok (some [c], here.next)

/-- The content of a quoted scalar from a place behind its opening quote. -/
def quotedWithin (quote : Char) : Nat → Cursor → Except Problem (List Char × Cursor)
  | 0, _ => .error (.broken .tokens)
  | fuel + 1, here => do
    match ← quotedStep quote here with
    | (none, last) => pure ([], last)
    | (some chars, next) =>
      let (more, last) ← quotedWithin quote fuel next
      pure (chars ++ more, last)

/-- A scalar between quotes; the place is at the opening one. -/
def quoted (quote : Char) (here : Cursor) : Except Problem (String × Cursor) :=
  (quotedWithin quote (here.rest.length + 1) here.next).map fun (chars, last) =>
    (String.ofList chars, last)

/-! ### Plain -/

/-- A plain scalar ends before a gap, before a colon that a gap follows, and within brackets
before anything that has a meaning there. -/
def endsPlain (inFlow : Bool) (c : Char) (after : Option Char) : Bool :=
  isSpaceOrTab c || isBreak c ||
    (c == ':' && (isGap after || (inFlow && after.any fun d => ",[]\x7b\x7d".toList.contains d))) ||
    (inFlow && ",?[]\x7b\x7d".toList.contains c)

/-- The characters up to where a plain scalar ends or pauses. -/
def plainRun (inFlow : Bool) : List Char → List Char
  | [] => []
  | c :: rest => if endsPlain inFlow c rest.head? then [] else c :: plainRun inFlow rest

/-- The line ends after one inside a plain scalar. Before a document mark there is nothing more. -/
def plainBreaks : Nat → Cursor → Option (List Char) × Cursor
  | 0, here => (some [], here)
  | fuel + 1, here =>
    let here := here.skip (· == ' ')
    match here.breakAt? with
    | none => (some [], here)
    | some (c, next) =>
      if next.atDocumentMark then (none, next)
      else
        let (more, last) := plainBreaks fuel next
        (more.map (c :: ·), last)

/-- The space after a part of a plain scalar, and whether it crosses a line end. -/
def plainSpace (here : Cursor) : List Char × Bool × Cursor :=
  let space := here.run (· == ' ')
  let here := here.skip (· == ' ')
  match here.breakAt? with
  | none => (space, false, here)
  | some (c, next) =>
    if next.atDocumentMark then ([], true, next)
    else
      let (more, last) := plainBreaks (next.rest.length + 1) next
      (more.elim [] (folded c), true, last)

/-- The parts of a plain scalar. It ends with no part after its space, at a comment, or on a line
of less indentation; the flag tells whether a line end came after its last part. -/
def plainParts (inFlow : Bool) (indent : Int) :
    Nat → (space : List Char) → (crossed : Bool) → Cursor → List Char × Bool × Cursor
  | 0, _, crossed, here => ([], crossed, here)
  | fuel + 1, space, crossed, here =>
    let part := plainRun inFlow here.rest
    if here.peek? == some '#' || part.isEmpty then ([], crossed, here)
    else
      let (after, crossed, next) := plainSpace (here.forward part.length)
      if after.isEmpty || next.peek? == some '#' || (!inFlow && (next.column : Int) < indent) then
        (space ++ part, crossed, next)
      else
        let (more, crossed, last) := plainParts inFlow indent fuel after crossed next
        (space ++ part ++ more, crossed, last)

/-- A plain scalar whose further lines are indented at least so far. -/
def plain (inFlow : Bool) (indent : Int) (here : Cursor) : String × Bool × Cursor :=
  let (chars, crossed, last) := plainParts inFlow indent (here.rest.length + 1) [] false here
  (String.ofList chars, crossed, last)

/-! ### Blocks -/

/-- What becomes of the line ends at the end of a block. -/
inductive Chomping
  | clip
  | strip
  | keep
  deriving DecidableEq, Repr

def Chomping.ofChar? : Char → Option Chomping
  | '+' => some .keep
  | '-' => some .strip
  | _ => none

/-- A sign at the place. -/
def chompingAt (here : Cursor) : Option Chomping × Cursor :=
  match here.peek?.bind Chomping.ofChar? with
  | some chomping => (some chomping, here.next)
  | none => (none, here)

/-- A digit at the place; zero is none that a header may have. -/
def incrementAt (here : Cursor) : Except Problem (Option Nat × Cursor) :=
  match here.peek? with
  | none => .ok (none, here)
  | some c =>
    if c == '0' then .error (.broken .tokens)
    else if c.isDigit then .ok (some (c.toNat - 48), here.next)
    else .ok (none, here)

/-- The rest of a line that may only hold space and a comment. -/
def emptyLine (here : Cursor) : Except Problem Cursor :=
  let here := (here.skip (· == ' ')).skipComment
  if isLineEnd here.peek? then .ok here.skipBreak else .error (.broken .tokens)

/-- The sign and digit of a header in either order, and the place after its line. -/
def header (here : Cursor) : Except Problem (Chomping × Option Nat × Cursor) := do
  let (before, here) := chompingAt here
  let (increment, here) ← incrementAt here
  let (after, here) := if before.isNone && increment.isSome then chompingAt here else (none, here)
  if !isSpaceOrEnd here.peek? then throw (.broken .tokens)
  let here ← emptyLine here
  pure ((before.or after).getD .clip, increment, here)

/-- The empty lines at the start of a block, and the greatest column that their spaces reach. -/
def leadingBreaks : Nat → (greatest : Nat) → Cursor → List Char × Nat × Cursor
  | 0, greatest, here => ([], greatest, here)
  | fuel + 1, greatest, here =>
    if here.peek? == some ' ' then leadingBreaks fuel (max greatest here.next.column) here.next
    else match here.breakAt? with
      | none => ([], greatest, here)
      | some (c, next) =>
        let (more, greatest, last) := leadingBreaks fuel greatest next
        (c :: more, greatest, last)

/-- The place after spaces that lie before a column. -/
def indentTo (indent : Nat) (here : Cursor) : Cursor :=
  here.forward (min (indent - here.column) (here.run (· == ' ')).length)

/-- The empty lines before the next line of a block. -/
def emptyLines (indent : Nat) : Nat → Cursor → List Char × Cursor
  | 0, here => ([], here)
  | fuel + 1, here =>
    let here := indentTo indent here
    match here.breakAt? with
    | none => ([], here)
    | some (c, next) =>
      let (more, last) := emptyLines indent fuel next
      (c :: more, last)

/-- The lines of a block with the line ends between them, then its last line end and the empty
lines behind it. A folded block joins two lines that start with no space. -/
def blockLines (fold : Bool) (indent : Nat) :
    Nat → (breaks : List Char) → Cursor → List Char × List Char × List Char × Cursor
  | 0, breaks, here => ([], [], breaks, here)
  | fuel + 1, breaks, here =>
    if here.column != indent || here.atEnd then ([], [], breaks, here)
    else
      let line := here.run fun c => !isBreak c
      let after := here.forward line.length
      let lineEnd := (after.breakAt?.map (·.1)).toList
      let (more, next) := emptyLines indent (after.rest.length + 1) after.skipBreak
      if next.column != indent || next.atEnd then (breaks ++ line, lineEnd, more, next)
      else
        let starts := fun (place : Cursor) => place.peek?.any isSpaceOrTab
        let joint :=
          if fold && lineEnd == ['\n'] && !starts here && !starts next then
            (if more.isEmpty then [' '] else [])
          else lineEnd
        let (lines, lastEnd, tail, last) := blockLines fold indent fuel more next
        (breaks ++ line ++ joint ++ lines, lastEnd, tail, last)

/-- A block under its header; the place is behind the indicator. The block is indented as far as
its header says, else as its first line, but always further than what it stands in. -/
def block (fold : Bool) (outer : Int) (here : Cursor) : Except Problem (String × Cursor) := do
  let (chomping, increment, here) ← header here
  let least := (max 1 (outer + 1)).toNat
  let fuel := here.rest.length + 1
  let (indent, breaks, here) := match increment with
    | some n =>
      let indent := least + n - 1
      let (breaks, next) := emptyLines indent fuel here
      (indent, breaks, next)
    | none =>
      let (breaks, greatest, next) := leadingBreaks fuel 0 here
      (max least greatest, breaks, next)
  let (lines, lastEnd, tail, last) := blockLines fold indent fuel breaks here
  let ending := match chomping with
    | .strip => []
    | .clip => lastEnd
    | .keep => lastEnd ++ tail
  pure (String.ofList (lines ++ ending), last)

end SearchFilter.Yaml.Scalar
