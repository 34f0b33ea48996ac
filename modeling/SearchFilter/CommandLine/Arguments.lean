import SearchFilter.CommandLine.Option
import SearchFilter.Text.Digit

/-!
Arguments out of the words of a command line. Options may stand anywhere, in full, cut short or run
together with their arguments; two hyphens end them. The words between options are a command and a
file, and the first fault in the order of reading is the one that is reported.
-/

namespace SearchFilter.CommandLine

/-- What follows an option in its own word: nothing, the rest of the word, or text behind an
equals sign. -/
inductive Attached
  | nothing
  | joined (text : String)
  | assigned (text : String)
  deriving DecidableEq, Repr

/-- An option as it was given, by its short spelling or not. -/
structure Given where
  flag : Flag
  short : Bool
  attached : Attached
  deriving DecidableEq, Repr

/-- A word of the command line: the end of the options, a plain word, an option, or what looks like
an option and is none. -/
inductive Piece
  | optionsEnd
  | plain (word : String)
  | option (given : Given)
  | stranger (word : String)
  deriving DecidableEq, Repr

namespace Piece

/-- Text behind the first equals sign. -/
def splitAssigned (word : List Char) : List Char × Attached :=
  match word.span (· != '=') with
  | (before, _ :: after) => (before, .assigned (String.ofList after))
  | (before, []) => (before, .nothing)

/-- The options that a word of two hyphens may be short for. -/
def abbreviated (word : List Char) : List (String × Given) :=
  let (before, attached) := splitAssigned word
  (Flag.spellings.filter fun spelling => before.isPrefixOf spelling.1.toList).map
    fun (spelling, flag) => (spelling, ⟨flag, false, attached⟩)

/-- The option that a word of one hyphen begins with. -/
def joinedTo (word : List Char) : List (String × Given) :=
  let short := String.ofList (word.take 2)
  match Flag.ofSpelling? short with
  | some flag => [(short, ⟨flag, true, .joined (String.ofList (word.drop 2))⟩)]
  | none => []

/-- A hyphen and a number. -/
def isNegativeNumber (word : List Char) : Bool :=
  match word with
  | '-' :: rest =>
    let rest := if rest.getLast? == some '\n' then rest.dropLast else rest
    let (whole, after) := rest.span Text.isDecimalDigit
    (after.isEmpty && !whole.isEmpty) ||
      (after.head? == some '.' && !(after.drop 1).isEmpty && (after.drop 1).all Text.isDecimalDigit)
  | _ => false

/-- The option that a word is by itself, or before an equals sign. -/
def named? (word : String) : Option Given :=
  let short := fun (spelling : String) => spelling.length == 2
  match Flag.ofSpelling? word with
  | some flag => some ⟨flag, short word, .nothing⟩
  | none =>
    let (before, attached) := splitAssigned word.toList
    if attached = .nothing then none
    else (Flag.ofSpelling? (String.ofList before)).map fun flag =>
      ⟨flag, before.length == 2, attached⟩

/-- What a word is among the options. -/
def ofWord (word : String) : Except Misuse Piece :=
  match word.toList with
  | '-' :: second :: rest => match named? word with
    | some given => .ok (.option given)
    | none =>
      let chars := '-' :: second :: rest
      match if second == '-' then abbreviated chars else joinedTo chars with
      | [(_, given)] => .ok (.option given)
      | [] =>
        if isNegativeNumber chars || chars.contains ' ' then .ok (.plain word)
        else .ok (.stranger word)
      | several => .error (.ambiguous word (several.map (·.1)))
  | _ => .ok (.plain word)

/-- What the words of a command line are; behind two hyphens all are plain. -/
def ofWords : List String → Except Misuse (List Piece)
  | [] => .ok []
  | word :: rest =>
    if word == "--" then .ok (.optionsEnd :: rest.map .plain)
    else do
      let piece ← ofWord word
      pure (piece :: (← ofWords rest))

end Piece

/-- Arguments as far as they are read. A word of two hyphens behind the end of the options is a file
without a name. -/
structure Collected where
  command : Option Command
  file : Option (Option String)
  config : Option String
  index : Option String
  level : Option LogLevel
  extras : List String
  deriving Repr

/-- The arguments of a run. -/
structure Arguments where
  command : Command
  file : Option String
  config : Option String
  index : Option String
  level : Option LogLevel
  deriving DecidableEq, Repr

/-- Why arguments do not start a run. -/
inductive Halt
  | help
  | version
  | misuse (cause : Misuse)
  deriving DecidableEq, Repr

namespace Collected

def empty : Collected :=
  ⟨none, none, none, none, none, []⟩

/-- Two hyphens that come to stand for a file stand for none. -/
def unlessHyphens (word : String) : Option String :=
  if word == "--" then none else some word

/-- Gives an option its argument. -/
def setOption (d : Collected) (flag : Flag) (argument : Option String) : Except Halt Collected :=
  match flag with
  | .help => .error .help
  | .version => .error .version
  | .config => .ok { d with config := argument }
  | .index => .ok { d with index := argument }
  | .logLevel => match argument with
    | none => .ok d
    | some name => match levels.find? (·.name == name) with
      | some level => .ok { d with level := some level }
      | none => .error (.misuse (.unknownLevel name))

def setCommand (d : Collected) (word : String) : Except Halt Collected :=
  match Command.ofName? word with
  | some command => .ok { d with command := some command }
  | none => .error (.misuse (.unknownCommand word))

/-- How many plain words are still wanted. -/
def wanted (d : Collected) : Nat :=
  if d.command.isNone then 2 else if d.file.isNone then 1 else 0

/-- The plain words at the start of the rest, up to an option. -/
def plainCount : List Piece → Nat
  | .plain _ :: rest => plainCount rest + 1
  | .optionsEnd :: rest => plainCount rest
  | _ => 0

/-- Takes one plain word with the end of options before or behind it. -/
def takePlain (d : Collected) (pieces : List Piece) : Except Halt (Collected × List Piece) :=
  let (guarded, pieces) := match pieces with
    | .optionsEnd :: rest => (true, rest)
    | pieces => (false, pieces)
  match pieces with
  | .plain word :: rest => do
    let (guarded, rest) := match rest with
      | .optionsEnd :: more => (true, more)
      | rest => (guarded, rest)
    if d.command.isNone then pure (← d.setCommand word, rest)
    else
      let file := if guarded then some word else unlessHyphens word
      pure ({ d with file := some file }, rest)
  | _ => pure (d, pieces)

/-- Takes as many plain words as are wanted and there. -/
def takePlains : Nat → Collected → List Piece → Except Halt (Collected × List Piece)
  | 0, d, pieces => .ok (d, pieces)
  | n + 1, d, pieces => do
    let (d, pieces) ← d.takePlain pieces
    takePlains n d pieces

/-- What an option consists of: those run together, the argument of the last, and text that belongs
to none of them. -/
structure Chain where
  silent : List Flag
  last : Option (Flag × Option String)
  stray : Option String

/-- Follows short options that are run together in one word; the next word may be an argument. -/
def chainOf (next : Option String) : Nat → Given → Except Halt (Chain × Bool)
  | 0, given => .error (.misuse (.noArgument given.flag))
  | fuel + 1, ⟨flag, short, attached⟩ =>
    let needless := fun text => Except.error (Halt.misuse (.needlessArgument flag text))
    match attached, flag.takesArgument with
    | .nothing, false => .ok (⟨[], some (flag, none), none⟩, false)
    | .nothing, true => match next with
      | some word => .ok (⟨[], some (flag, some word), none⟩, true)
      | none => .error (.misuse (.noArgument flag))
    | .joined text, true | .assigned text, true =>
      .ok (⟨[], some (flag, some text), none⟩, false)
    | .assigned text, false => needless text
    | .joined text, false =>
      match text.toList with
      | [] => needless text
      | c :: rest =>
        if !short || c == '-' then needless text
        else match Flag.ofSpelling? (String.ofList ['-', c]) with
          | none => .ok (⟨[flag], none, some (String.ofList ('-' :: c :: rest))⟩, false)
          | some inner => do
            let attached := match rest with
              | [] => .nothing
              | '=' :: after => .assigned (String.ofList after)
              | rest => .joined (String.ofList rest)
            let (chain, used) ← chainOf next fuel ⟨inner, true, attached⟩
            pure ({ chain with silent := flag :: chain.silent }, used)

/-- Carries out a chain of options. -/
def applyChain (d : Collected) (chain : Chain) : Except Halt Collected := do
  let d := { d with extras := d.extras ++ chain.stray.toList }
  let d ← chain.silent.foldlM (fun d flag => d.setOption flag none) d
  match chain.last with
  | some (flag, argument) => d.setOption flag argument
  | none => pure d

/-- Takes an option and its argument. -/
def takeOption (d : Collected) (given : Given) (rest : List Piece) :
    Except Halt (Collected × List Piece) := do
  let next := match rest with
    | .plain word :: _ => some word
    | _ => none
  let length := match given.attached with
    | .joined text => text.length
    | _ => 0
  let (chain, used) ← chainOf next (length + 2) given
  pure (← d.applyChain chain, if used then rest.drop 1 else rest)

/-- The word that a piece was. -/
def wordOf : Piece → String
  | .optionsEnd => "--"
  | .plain word | .stranger word => word
  | .option _ => ""

def isPlain : Piece → Bool
  | .plain _ | .optionsEnd => true
  | _ => false

/-- Reads the pieces that are left. Before each option the plain words that are wanted are taken,
and the others are left over. -/
def readFrom : Nat → Collected → List Piece → Except Halt Collected
  | 0, d, _ => .ok d
  | fuel + 1, d, pieces => do
    let (d, pieces) ← takePlains (min d.wanted (plainCount pieces)) d pieces
    let d := { d with extras := d.extras ++ (pieces.takeWhile isPlain).map wordOf }
    match pieces.dropWhile isPlain with
    | .option given :: rest =>
      let (d, rest) ← d.takeOption given rest
      readFrom fuel d rest
    | .stranger word :: rest => readFrom fuel { d with extras := d.extras ++ [word] } rest
    | _ => pure d

/-- The arguments, if none is missing and none is left over. -/
def finish (d : Collected) : Except Misuse Arguments :=
  match d.command, d.file with
  | some command, some file =>
    if d.extras.isEmpty then .ok ⟨command, file, d.config, d.index, d.level⟩
    else .error (.unrecognized d.extras)
  | some _, none => .error (.missing ["file"])
  | none, _ => .error (.missing ["command", "file"])

end Collected

/-- The arguments that the words of a command line give. -/
def Arguments.ofWords (words : List String) : Except Halt Arguments :=
  match Piece.ofWords words with
  | .error cause => .error (.misuse cause)
  | .ok pieces => match Collected.readFrom (pieces.length + 1) .empty pieces with
    | .error halt => .error halt
    | .ok d => match d.finish with
      | .ok arguments => .ok arguments
      | .error cause => .error (.misuse cause)

end SearchFilter.CommandLine
