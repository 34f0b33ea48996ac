import SearchFilter.Number.Numeral
import SearchFilter.Value
import SearchFilter.Text.Quoted

namespace SearchFilter.Value

/-- The constructor notation of a moment's time, trailing zero parts left out. -/
def momentNotation (m : Moment) : String :=
  let time := m.time
  let seconds :=
    if time.microsecond ≠ 0 then [toString time.second, toString time.microsecond]
    else if time.second ≠ 0 then [toString time.second] else []
  let zone := match m.offset with
    | none => []
    | some 0 => ["tzinfo=datetime.timezone.utc"]
    | some seconds =>
      ["tzinfo=datetime.timezone(" ++ CalendarFault.durationText seconds ++ ")"]
  let date := [m.date.year, m.date.month, m.date.day].map (toString ·)
  let parts := date ++ [toString time.hour, toString time.minute] ++ seconds ++ zone
  "datetime.datetime(" ++ ", ".intercalate parts ++ ")"

def dateNotation (d : Date) : String :=
  "datetime.date(" ++ ", ".intercalate ([d.year, d.month, d.day].map (toString ·)) ++ ")"

def boolText (b : Bool) : String :=
  if b then "True" else "False"

mutual

/-- Whether a value can be written out: no integer in it is too long for that. -/
def isWritable : Value → Bool
  | number (.int n) => Numeral.isWritable n
  | list items | tuple items | set items => allWritable items
  | map entries => entriesWritable entries
  | _ => true
termination_by structural v => v

def allWritable : List Value → Bool
  | [] => true
  | item :: rest => item.isWritable && allWritable rest
termination_by structural items => items

def entriesWritable : List (Value × Value) → Bool
  | [] => true
  | entry :: rest => entryWritable entry && entriesWritable rest
termination_by structural entries => entries

def entryWritable : Value × Value → Bool
  | (key, value) => key.isWritable && value.isWritable
termination_by structural entry => entry

end

mutual

/-- A value in the notation that tells its type. -/
def quoted : Value → String
  | null => "None"
  | bool b => boolText b
  | number (.int n) => toString n
  | number (.float x) => x.text
  | number (.decimal d) => "Decimal('" ++ d.text ++ "')"
  | date d => dateNotation d
  | moment m => momentNotation m
  | bytes content => Text.quotedBytes content
  | text s => Text.quoted s
  | list items => "[" ++ ", ".intercalate (quotedAll items) ++ "]"
  | tuple [item] => "(" ++ item.quoted ++ ",)"
  | tuple items => "(" ++ ", ".intercalate (quotedAll items) ++ ")"
  | set [] => "set()"
  | set items => "\x7b" ++ ", ".intercalate (quotedAll items) ++ "\x7d"
  | map entries => "\x7b" ++ ", ".intercalate (quotedEntries entries) ++ "\x7d"
  | operator op => "<Operator." ++ op.label ++ ": '" ++ op.name ++ "'>"
  | conjunction c => "<Conjunction." ++ c.name ++ ": '" ++ c.name ++ "'>"
termination_by structural v => v

def quotedAll : List Value → List String
  | [] => []
  | item :: rest => item.quoted :: quotedAll rest
termination_by structural items => items

def quotedEntries : List (Value × Value) → List String
  | [] => []
  | entry :: rest => quotedEntry entry :: quotedEntries rest
termination_by structural entries => entries

def quotedEntry : Value × Value → String
  | (key, value) => key.quoted ++ ": " ++ value.quoted
termination_by structural entry => entry

end

/-- A value shown for its content. -/
def display : Value → String
  | text s => s
  | number n => n.text
  | date d => d.text
  | moment m => m.textWith " "
  | operator op => "Operator." ++ op.label
  | conjunction c => "Conjunction." ++ c.name
  | other => other.quoted

/-- The text by which a value is compared naturally: calendar points in their standard form. -/
def plainText : Value → String
  | moment m => m.text
  | other => (other.asText?).getD other.display

end SearchFilter.Value
