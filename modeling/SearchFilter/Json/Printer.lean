import SearchFilter.Value.Printer

/-!
Writing JSON in ASCII: a character beyond it appears as its code, one beyond sixteen bits as a pair
of codes. A value that JSON does not know is written as its text.
-/

namespace SearchFilter.Json

def codeUnit (code : Nat) : List Char :=
  '\\' :: 'u' :: Text.hexText 4 code

def escapeChar (c : Char) : List Char :=
  if c == '"' then ['\\', '"']
  else if c == '\\' then ['\\', '\\']
  else if c == '\n' then ['\\', 'n']
  else if c == '\r' then ['\\', 'r']
  else if c == '\t' then ['\\', 't']
  else if c == '\x08' then ['\\', 'b']
  else if c == '\x0c' then ['\\', 'f']
  else if 0x20 ≤ c.toNat ∧ c.toNat < 0x7f then [c]
  else if c.toNat < 0x10000 then codeUnit c.toNat
  else
    let rest := c.toNat - 0x10000
    codeUnit (0xd800 + rest / 0x400) ++ codeUnit (0xdc00 + rest % 0x400)

/-- A text between quotes. -/
def quoted (text : String) : String :=
  String.ofList ('"' :: text.toList.flatMap escapeChar ++ ['"'])

def floatText : Binary64 → String
  | .nan _ => "NaN"
  | .infinity negative => if negative then "-Infinity" else "Infinity"
  | x => x.text

/-- The name under which a key appears. -/
def keyText (key : Value) : String :=
  match key with
  | .null => "null"
  | .bool b => if b then "true" else "false"
  | .number (.float x) => floatText x
  | .number n => n.text
  | other => (other.asText?).getD other.display

/-- A value without parts. -/
def atomText (value : Value) : String :=
  match value with
  | .null => "null"
  | .bool b => if b then "true" else "false"
  | .int n => toString n
  | .float x => floatText x
  | other => quoted ((other.asText?).getD other.display)

/-- How the parts of a list or mapping are laid out at a depth: what stands after its opening and
before its closing bracket, between two parts, and after a name. -/
structure Layout where
  opening : Nat → String
  closing : Nat → String
  between : Nat → String
  colon : String

/-- Everything on one line, with no space. -/
def Layout.compact : Layout :=
  ⟨fun _ => "", fun _ => "", fun _ => ",", ":"⟩

def lineAt (depth : Nat) : String :=
  "\n" ++ String.ofList (List.replicate (2 * depth) ' ')

/-- One part on a line, each depth two columns further in. -/
def Layout.indented : Layout :=
  ⟨fun depth => lineAt (depth + 1), lineAt, fun depth => "," ++ lineAt (depth + 1), ": "⟩

mutual

def render (layout : Layout) (depth : Nat) : Value → String
  | .list [] | .tuple [] => "[]"
  | .map [] => "\x7b\x7d"
  | .list items | .tuple items =>
    "[" ++ layout.opening depth ++
      (layout.between depth).intercalate (renderItems layout (depth + 1) items) ++
      layout.closing depth ++ "]"
  | .map entries =>
    "\x7b" ++ layout.opening depth ++
      (layout.between depth).intercalate (renderEntries layout (depth + 1) entries) ++
      layout.closing depth ++ "\x7d"
  | atom => atomText atom
termination_by structural v => v

def renderItems (layout : Layout) (depth : Nat) : List Value → List String
  | [] => []
  | item :: rest => render layout depth item :: renderItems layout depth rest
termination_by structural items => items

def renderEntries (layout : Layout) (depth : Nat) : List (Value × Value) → List String
  | [] => []
  | entry :: rest => renderEntry layout depth entry :: renderEntries layout depth rest
termination_by structural entries => entries

def renderEntry (layout : Layout) (depth : Nat) : Value × Value → String
  | (key, value) => quoted (keyText key) ++ layout.colon ++ render layout depth value
termination_by structural entry => entry

end

/-- A value on one line. -/
def compact (value : Value) : String :=
  render .compact 0 value

/-- A value over several lines. -/
def indented (value : Value) : String :=
  render .indented 0 value

end SearchFilter.Json
