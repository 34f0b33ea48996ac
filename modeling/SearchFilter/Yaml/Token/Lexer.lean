import SearchFilter.Yaml.Token.Name

/-!
The tokens of a text. A word becomes a key only when a colon follows it on its line, so each place
where a key may begin is remembered until the colon comes or can come no more. When the text breaks
a rule, the tokens before it stand, as far as no key may begin among them.
-/

namespace SearchFilter.Yaml

/-- A place where a key may begin: the number of its first token and where it lies. A key that must
begin there is one that starts a line of a block. -/
structure PendingKey where
  number : Nat
  required : Bool
  level : Nat
  offset : Nat
  line : Nat
  column : Nat
  deriving Repr

/-- The state between two tokens: how deep in brackets, how far indented, and what was found. -/
structure Lexer where
  here : Cursor
  level : Nat
  indent : Int
  outer : List Int
  keyAllowed : Bool
  pending : List PendingKey
  tokens : Array Token
  finished : Bool
  deriving Repr

namespace Lexer

def start (text : List Char) : Lexer :=
  ⟨.start text, 0, -1, [], true, [], #[], false⟩

def push (l : Lexer) (token : Token) : Lexer :=
  { l with tokens := l.tokens.push token }

/-- Puts a token in front of one that is there. -/
def insertAt (l : Lexer) (number : Nat) (token : Token) : Lexer :=
  { l with tokens := l.tokens.insertIdxIfInBounds number token }

def inFlow (l : Lexer) : Bool :=
  l.level != 0

/-- How many tokens cannot change any more: those before the first that may turn out a key. -/
def settled (l : Lexer) : Nat :=
  l.pending.foldl (fun least key => min least key.number) l.tokens.size

/-! ### Keys that may begin -/

/-- A colon for the key would have to be on its line, and within so many characters. -/
def isStale (l : Lexer) (key : PendingKey) : Bool :=
  key.line != l.here.line || 1024 < l.here.offset - key.offset

/-- Forgets the keys whose colon can come no more. -/
def dropStale (l : Lexer) : Except Problem Lexer :=
  if l.pending.any fun key => l.isStale key && key.required then .error (.broken .tokens)
  else .ok { l with pending := l.pending.filter fun key => !l.isStale key }

/-- Forgets the key that may begin at this depth of brackets. -/
def dropPending (l : Lexer) : Except Problem Lexer :=
  if l.pending.any fun key => key.level == l.level && key.required then .error (.broken .tokens)
  else .ok { l with pending := l.pending.filter fun key => key.level != l.level }

/-- Remembers that a key may begin here. -/
def savePending (l : Lexer) : Except Problem Lexer :=
  if !l.keyAllowed then .ok l
  else l.dropPending.map fun l =>
    let required := !l.inFlow && l.indent == l.here.column
    let key : PendingKey :=
      ⟨l.tokens.size, required, l.level, l.here.offset, l.here.line, l.here.column⟩
    { l with pending := key :: l.pending }

/-! ### Indentation -/

/-- Closes the blocks that are indented further than a column, given how deep they nest. -/
def closeBlocks (column : Int) : List Int → Lexer → Lexer
  | [], l => l
  | before :: outer, l =>
    if column < l.indent then
      closeBlocks column outer { l.push .blockClose with indent := before, outer := outer }
    else l

/-- Closes the blocks that end before a column; inside brackets indentation has no meaning. -/
def unwind (l : Lexer) (column : Int) : Lexer :=
  if l.inFlow then l else closeBlocks column l.outer l

/-- Opens a block at a column unless one is open there, with its token in front of another. -/
def openBlock (l : Lexer) (column number : Nat) (token : Token) : Lexer :=
  if l.indent < column then
    let l := if number < l.tokens.size then l.insertAt number token else l.push token
    { l with indent := column, outer := l.indent :: l.outer }
  else l

/-! ### Single tokens -/

def forward (l : Lexer) (n : Nat) : Lexer :=
  { l with here := l.here.forward n }

/-- The end of the text closes every block. -/
def finish (l : Lexer) : Except Problem Lexer :=
  (l.unwind (-1)).dropPending.map fun l =>
    { l.push .textEnd with keyAllowed := false, pending := [], finished := true }

def pragma (l : Lexer) : Except Problem Lexer := do
  let l ← (l.unwind (-1)).dropPending
  let (p, here) ← Name.pragma l.here
  pure { l.push (.pragma p) with here, keyAllowed := false }

def documentMark (l : Lexer) (token : Token) : Except Problem Lexer :=
  (l.unwind (-1)).dropPending.map fun l => { (l.push token).forward 3 with keyAllowed := false }

/-- A bracket that opens may itself begin a key. -/
def openFlow (l : Lexer) (token : Token) : Except Problem Lexer :=
  l.savePending.map fun l =>
    { (l.push token).forward 1 with level := l.level + 1, keyAllowed := true }

def closeFlow (l : Lexer) (token : Token) : Except Problem Lexer :=
  l.dropPending.map fun l =>
    { (l.push token).forward 1 with level := l.level - 1, keyAllowed := false }

def comma (l : Lexer) : Except Problem Lexer :=
  l.dropPending.map fun l => { (l.push .comma).forward 1 with keyAllowed := true }

/-- Opens a block for a mark that may only stand where a key may. -/
def blockMark (l : Lexer) (token : Token) : Except Problem Lexer :=
  if l.inFlow then .ok l
  else if !l.keyAllowed then .error (.broken .tokens)
  else .ok (l.openBlock l.here.column l.tokens.size token)

def dash (l : Lexer) : Except Problem Lexer := do
  let l ← (← l.blockMark .sequenceOpen).dropPending
  pure { (l.push .dash).forward 1 with keyAllowed := true }

/-- A mark before a key or before a value whose key is no single word. -/
def explicitMark (l : Lexer) (token : Token) : Except Problem Lexer := do
  let l ← (← l.blockMark .mappingOpen).dropPending
  pure { (l.push token).forward 1 with keyAllowed := !l.inFlow }

/-- A colon: it makes a key of what may be one, and opens a block where the key begins. -/
def colon (l : Lexer) : Except Problem Lexer :=
  match l.pending.find? fun key => key.level == l.level with
  | none => l.explicitMark .colon
  | some found =>
    let l := { l with pending := l.pending.filter fun key => key.level != l.level }
    let l := l.insertAt found.number .key
    let l := if l.inFlow then l else l.openBlock found.column found.number .mappingOpen
    .ok { (l.push .colon).forward 1 with keyAllowed := false }

/-- A token that may be the whole of a key. -/
def word (l : Lexer) (scan : Cursor → Except Problem (Token × Cursor)) : Except Problem Lexer := do
  let l ← l.savePending
  let (token, here) ← scan l.here
  pure { l.push token with here, keyAllowed := false }

def block (l : Lexer) (fold : Bool) : Except Problem Lexer := do
  let l ← l.dropPending
  let (text, here) ← Scalar.block fold l.indent l.here.next
  pure { l.push (.scalar false text) with here, keyAllowed := true }

/-- A plain scalar; a key may follow it if a line ends behind it. -/
def plain (l : Lexer) : Except Problem Lexer :=
  l.savePending.map fun l =>
    let (text, crossed, here) := Scalar.plain l.inFlow (l.indent + 1) l.here
    { l.push (.scalar true text) with here, keyAllowed := crossed }

/-- The character may begin a plain scalar: it has no meaning of its own, or none where a gap does
not follow. -/
def beginsPlain (l : Lexer) (c : Char) : Bool :=
  let marks := "-?:,[]\x7b\x7d#&*!|>'\"%@`".toList
  (!isSpaceOrTab c && !isBreak c && !marks.contains c) ||
    (!isGap (l.here.peekAfter? 1) && (c == '-' || (!l.inFlow && (c == '?' || c == ':'))))

/-- A mark that counts inside brackets, and elsewhere before a gap. -/
def isFlowMark (l : Lexer) : Bool :=
  l.inFlow || isGap (l.here.peekAfter? 1)

/-- The token that a character begins. -/
def tokenAt (l : Lexer) (c : Char) : Except Problem Lexer :=
  let atMargin := l.here.column == 0
  if c == '%' && atMargin then l.pragma
  else if atMargin && l.here.atMark '-' then l.documentMark .documentStart
  else if atMargin && l.here.atMark '.' then l.documentMark .documentEnd
  else if c == '[' then l.openFlow .bracketOpen
  else if c == '\x7b' then l.openFlow .braceOpen
  else if c == ']' then l.closeFlow .bracketClose
  else if c == '\x7d' then l.closeFlow .braceClose
  else if c == ',' then l.comma
  else if c == '-' && isGap (l.here.peekAfter? 1) then l.dash
  else if c == '?' && l.isFlowMark then l.explicitMark .key
  else if c == ':' && l.isFlowMark then l.colon
  else if c == '*' then
    l.word fun here => (Name.anchor here).map fun (name, last) => (.reference name, last)
  else if c == '&' then
    l.word fun here => (Name.anchor here).map fun (name, last) => (.anchor name, last)
  else if c == '!' then
    l.word fun here => (Name.tag here).map fun (name, last) => (.tag name, last)
  else if c == '|' && !l.inFlow then l.block false
  else if c == '>' && !l.inFlow then l.block true
  else if c == '\'' || c == '"' then
    l.word fun here => (Scalar.quoted c here).map fun (text, last) => (.scalar false text, last)
  else if l.beginsPlain c then l.plain
  else .error (.broken .tokens)

/-! ### All tokens -/

/-- Moves over spaces, comments and line ends. A line end outside brackets lets a key begin. -/
def skipGap : Nat → Lexer → Lexer
  | 0, l => l
  | fuel + 1, l =>
    let here := (l.here.skip (· == ' ')).skipComment
    match here.breakAt? with
    | none => { l with here }
    | some (_, next) => skipGap fuel { l with here := next, keyAllowed := l.keyAllowed || !l.inFlow }

/-- The place after a byte order mark at the start of the text. -/
def skipOrderMark (l : Lexer) : Lexer :=
  if l.here.offset == 0 && l.here.peek? == some '\ufeff' then l.forward 1 else l

/-- Finds the next token, and the tokens for the blocks that end before it. -/
def next (l : Lexer) : Except Problem Lexer := do
  let l := l.skipOrderMark
  let l ← (skipGap (l.here.rest.length + 1) l).dropStale
  let l := l.unwind l.here.column
  match l.here.peek? with
  | none => l.finish
  | some c => l.tokenAt c

end Lexer

/-- The tokens of a text, and the problem that stands behind them if the text breaks a rule. -/
structure Tokens where
  list : List Token
  stop : Option Problem
  deriving Repr

namespace Tokens

/-- The tokens from a state on; `settled` of them stand whatever comes. -/
def within : Nat → (settled : Nat) → Lexer → Tokens
  | 0, settled, l => ⟨(l.tokens.take settled).toList, some (.broken .tokens)⟩
  | fuel + 1, settled, l =>
    let cut := fun (problem : Problem) => (⟨(l.tokens.take settled).toList, some problem⟩ : Tokens)
    match l.dropStale with
    | .error problem => cut problem
    | .ok l =>
      if l.finished then ⟨l.tokens.toList, none⟩
      else match l.next with
        | .error problem => ⟨(l.tokens.take l.settled).toList, some problem⟩
        | .ok found => within fuel l.settled found

/-- The tokens of a text. Each takes a character or more, but for the one that ends the text. -/
def ofText (text : List Char) : Tokens :=
  within (text.length + 2) 0 (.start text)

end Tokens

end SearchFilter.Yaml
