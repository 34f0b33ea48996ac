import SearchFilter.Text.Blank

/-!
Files of variables. A line gives a variable its value, bare or between quotes; a bare value ends
before a comment, a quoted one may run over several lines and holds escapes. A line that makes no
sense is passed over. Values may refer to variables given before or outside the file.
-/

namespace SearchFilter.Dotenv

/-- A variable, with a value if its line has one. -/
structure Binding where
  name : String
  value : Option String
  deriving DecidableEq, Repr

/-- A blank that does not end a line. -/
def isInnerBlank (c : Char) : Bool :=
  Text.isBlank c && c != '\n' && c != '\r'

def isLineEnd (c : Char) : Bool :=
  c == '\n' || c == '\r'

/-- The rest of a text behind the line end that it starts with. -/
def dropLineEnd : List Char → List Char
  | '\r' :: '\n' :: rest => rest
  | c :: rest => if isLineEnd c then rest else c :: rest
  | [] => []

/-- The text without a keyword that may stand before a name. -/
def dropExport (text : List Char) : List Char :=
  let word := "export".toList
  let rest := text.drop word.length
  if word.isPrefixOf text && (rest.head?.map isInnerBlank).getD false then
    rest.dropWhile isInnerBlank
  else text

/-- Splits at the first quote that no backslash precedes; failing that at the last quote. -/
def splitQuoted (quote : Char) : List Char → Option (List Char × List Char)
  | [] => none
  | '\\' :: c :: rest =>
    if c == quote then
      match splitQuoted quote rest with
      | some (inner, after) => some ('\\' :: c :: inner, after)
      | none => some (['\\'], rest)
    else (splitQuoted quote (c :: rest)).map fun (inner, after) => ('\\' :: inner, after)
  | c :: rest =>
    if c == quote then some ([], rest)
    else (splitQuoted quote rest).map fun (inner, after) => (c :: inner, after)

/-- What a letter after a backslash stands for between double quotes. -/
def doubleEscape? : Char → Option Char
  | '\\' => some '\\'
  | '\'' => some '\''
  | '"' => some '"'
  | 'a' => some '\x07'
  | 'b' => some '\x08'
  | 'f' => some '\x0c'
  | 'n' => some '\n'
  | 'r' => some '\r'
  | 't' => some '\t'
  | 'v' => some '\x0b'
  | _ => none

def singleEscape? (c : Char) : Option Char :=
  if c == '\\' || c == '\'' then some c else none

/-- A text with its escapes replaced. -/
def unescape (escape? : Char → Option Char) : List Char → List Char
  | '\\' :: c :: rest => match escape? c with
    | some meant => meant :: unescape escape? rest
    | none => '\\' :: unescape escape? (c :: rest)
  | c :: rest => c :: unescape escape? rest
  | [] => []

/-- A bare value without the comment behind it. -/
def dropComment : List Char → List Char
  | [] => []
  | c :: rest =>
    if Text.isBlank c && ((c :: rest).dropWhile Text.isBlank).head? == some '#' then []
    else c :: dropComment rest

/-- The value behind an equality sign, and the rest; `none` if a quote is never closed. -/
def valueAt? (text : List Char) : Option (String × List Char) :=
  match text with
  | '\'' :: rest => (splitQuoted '\'' rest).map fun (inner, after) =>
      (String.ofList (unescape singleEscape? inner), after)
  | '"' :: rest => (splitQuoted '"' rest).map fun (inner, after) =>
      (String.ofList (unescape doubleEscape? inner), after)
  | text =>
    let line := text.takeWhile (!isLineEnd ·)
    let value := Text.dropEndWhile Text.isBlank (dropComment line)
    some (String.ofList value, text.drop line.length)

/-- The name at the start of a text, and the rest. -/
def nameAt? (text : List Char) : Option (String × List Char) :=
  match text with
  | '\'' :: rest =>
    let name := rest.takeWhile (· != '\'')
    match rest.drop name.length with
    | _ :: after => if name.isEmpty then none else some (String.ofList name, after)
    | [] => none
  | text =>
    let name := text.takeWhile fun c => c != '=' && c != '#' && !Text.isBlank c
    if name.isEmpty then none else some (String.ofList name, text.drop name.length)

/-- The text behind the end of a line, if nothing but a comment precedes it. -/
def lineEnd? (text : List Char) : Option (List Char) :=
  match text.dropWhile isInnerBlank with
  | '#' :: rest => some (dropLineEnd (rest.dropWhile (!isLineEnd ·)))
  | [] => some []
  | c :: rest => if isLineEnd c then some (dropLineEnd (c :: rest)) else none

/-- What one step of reading gives: a binding, if there is one, and the rest. -/
def step (text : List Char) : Option Binding × List Char :=
  let failed := fun (rest : List Char) => (none, dropLineEnd (rest.dropWhile (!isLineEnd ·)))
  let finish := fun (binding : Option Binding) (rest : List Char) =>
    match lineEnd? rest with
    | some after => (binding, after)
    | none => failed rest
  let text := dropExport (text.dropWhile Text.isBlank)
  match text with
  | [] => (none, [])
  | '#' :: _ => finish none text
  | _ => match nameAt? text with
    | none => failed text
    | some (name, rest) =>
      match rest.dropWhile isInnerBlank with
      | '=' :: more =>
        let more := more.dropWhile isInnerBlank
        match valueAt? more with
        | some (value, after) => finish (some ⟨name, some value⟩) after
        | none => failed more
      | more => finish (some ⟨name, none⟩) more

/-- The bindings of a text, at most `fuel` lines of it. -/
def bindingsWithin : Nat → List Char → List Binding
  | 0, _ => []
  | fuel + 1, text =>
    if text.isEmpty then []
    else
      let (binding, rest) := step text
      binding.toList ++ bindingsWithin fuel rest

def bindings (text : String) : List Binding :=
  bindingsWithin (text.length + 1) text.toList

/-- The reference at the start of a text: a name, perhaps a default, and the rest. -/
def referenceAt? (text : List Char) : Option (String × Option String × List Char) :=
  match text with
  | '$' :: '\x7b' :: rest =>
    let name := rest.takeWhile fun c => c != '\x7d' && c != ':'
    match rest.drop name.length with
    | '\x7d' :: after => some (String.ofList name, none, after)
    | ':' :: '-' :: more =>
      let default := more.takeWhile (· != '\x7d')
      match more.drop default.length with
      | _ :: after => some (String.ofList name, some (String.ofList default), after)
      | [] => none
    | _ => none
  | _ => none

/-- A value with its references replaced. -/
def expandWithin (known : List (String × Option String)) : Nat → List Char → List Char
  | 0, text => text
  | _, [] => []
  | fuel + 1, c :: rest =>
    match referenceAt? (c :: rest) with
    | some (name, default, after) =>
      let value := match known.lookup name with
        | some value => value.getD ""
        | none => default.getD ""
      value.toList ++ expandWithin known fuel after
    | none => c :: expandWithin known fuel rest

/-- Puts a variable where it was first given. -/
def assign (known : List (String × Option String)) (name : String) (value : Option String) :
    List (String × Option String) :=
  if (known.lookup name).isSome then
    known.map fun (n, v) => if n == name then (n, value) else (n, v)
  else known ++ [(name, value)]

/-- The variables of a file. Those given in the file hide those outside it. -/
def assignments (outside : List (String × String)) (text : String) :
    List (String × Option String) :=
  (bindings text).foldl (fun found binding =>
    let known := found ++ outside.map fun (name, value) => (name, some value)
    let value := binding.value.map fun value =>
      String.ofList (expandWithin known value.length value.toList)
    assign found binding.name value) []

end SearchFilter.Dotenv
