namespace SearchFilter.Yaml

/-- A character that ends a line. -/
def isBreak (c : Char) : Bool :=
  c == '\n' || c == '\u0085' || c == '\u2028' || c == '\u2029'

def isSpaceOrTab (c : Char) : Bool :=
  c == ' ' || c == '\t'

/-- A line end as it stands in a scalar. -/
def breakText (c : Char) : Char :=
  if c == '\u0085' then '\n' else c

/-- A letter, digit, hyphen or low line: what names of anchors, handles and directives hold. -/
def isWordChar (c : Char) : Bool :=
  c.isAlphanum || c == '-' || c == '_'

/-- A character that a text may hold. -/
def isAllowed (c : Char) : Bool :=
  let code := c.toNat
  code == 0x9 || code == 0xa || code == 0xd || (0x20 ≤ code && code ≤ 0x7e) || code == 0x85 ||
    (0xa0 ≤ code && code ≤ 0xd7ff) || (0xe000 ≤ code && code ≤ 0xfffd) || 0x10000 ≤ code

/-- A class of characters that the end of the text belongs to as well. -/
def orEnd (p : Char → Bool) : Option Char → Bool
  | none => true
  | some c => p c

/-- The end of the text, of a line, or of a word. -/
def isGap : Option Char → Bool :=
  orEnd fun c => isSpaceOrTab c || isBreak c

/-- The end of the text, of a line, or of a word before a space. -/
def isSpaceOrEnd : Option Char → Bool :=
  orEnd fun c => c == ' ' || isBreak c

/-- The end of the text or of a line. -/
def isLineEnd : Option Char → Bool :=
  orEnd isBreak

/-- What is left of a text, and how much lies before: in all, in lines, and within the line. -/
structure Cursor where
  rest : List Char
  offset : Nat
  line : Nat
  column : Nat
  deriving Repr

namespace Cursor

def start (text : List Char) : Cursor :=
  ⟨text, 0, 0, 0⟩

def peek? (here : Cursor) : Option Char :=
  here.rest.head?

/-- The character after the next `n`. -/
def peekAfter? (here : Cursor) (n : Nat) : Option Char :=
  here.rest[n]?

def atEnd (here : Cursor) : Bool :=
  here.rest.isEmpty

/-- The place after the next character. A byte order mark takes no column. -/
def next (here : Cursor) : Cursor :=
  match here.rest with
  | [] => here
  | c :: rest =>
    if isBreak c then ⟨rest, here.offset + 1, here.line + 1, 0⟩
    else ⟨rest, here.offset + 1, here.line, here.column + (if c == '\ufeff' then 0 else 1)⟩

def forward (here : Cursor) : Nat → Cursor
  | 0 => here
  | n + 1 => here.next.forward n

/-- The next characters as long as they are of a class. -/
def run (here : Cursor) (p : Char → Bool) : List Char :=
  here.rest.takeWhile p

/-- The place after the next characters of a class. -/
def skip (here : Cursor) (p : Char → Bool) : Cursor :=
  here.forward (here.run p).length

/-- The place after a comment that starts here, if one does. -/
def skipComment (here : Cursor) : Cursor :=
  if here.peek? == some '#' then here.skip fun c => !isBreak c else here

/-- A line end at the place, as it stands in a scalar. -/
def breakAt? (here : Cursor) : Option (Char × Cursor) :=
  match here.rest with
  | c :: _ => if isBreak c then some (breakText c, here.next) else none
  | [] => none

/-- The place after a line end, if one is here. -/
def skipBreak (here : Cursor) : Cursor :=
  match here.breakAt? with
  | some (_, next) => next
  | none => here

/-- Three hyphens or points that stand alone: the start or end of a document. -/
def atMark (here : Cursor) (mark : Char) : Bool :=
  [mark, mark, mark].isPrefixOf here.rest && isGap (here.peekAfter? 3)

def atDocumentMark (here : Cursor) : Bool :=
  here.atMark '-' || here.atMark '.'

end Cursor

end SearchFilter.Yaml
