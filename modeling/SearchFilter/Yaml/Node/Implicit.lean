import SearchFilter.Yaml.Node
import SearchFilter.Yaml.Node.Number
import SearchFilter.Yaml.Node.Timestamp

namespace SearchFilter.Yaml

namespace Implicit

def isDigitOrGap (c : Char) : Bool :=
  c.isDigit || c == '_'

/-- A text without a sign at its start. -/
def dropSign : List Char → List Char
  | c :: rest => if c == '-' || c == '+' then rest else c :: rest
  | [] => []

/-- Digits and low lines, the first of them a digit of a class. -/
def isGrouped (first : Char → Bool) : List Char → Bool
  | [] => false
  | c :: rest => first c && rest.all isDigitOrGap

/-- A place of a number to base sixty below the highest one. -/
def isSixtieth : List Char → Bool
  | [c] => c.isDigit
  | [c, d] => '0' ≤ c && c ≤ '5' && d.isDigit
  | _ => false

/-- A number to base sixty with at least two places. -/
def isSexagesimal (first : Char → Bool) (text : List Char) : Bool :=
  match Number.places text with
  | highest :: next :: rest => isGrouped first highest && (next :: rest).all isSixtieth
  | _ => false

def isNonzero (c : Char) : Bool :=
  c.isDigit && c != '0'

/-- Characters of a class, at least one, behind a mark. -/
def isMarked (mark : List Char) (p : Char → Bool) (text : List Char) : Bool :=
  mark.isPrefixOf text && !(text.drop mark.length).isEmpty && (text.drop mark.length).all p

def isHexDigit (c : Char) : Bool :=
  c.isDigit || ('a' ≤ c && c ≤ 'f') || ('A' ≤ c && c ≤ 'F')

/-- The spelling of an integer. -/
def isInt (text : List Char) : Bool :=
  let body := dropSign text
  isMarked ['0', 'b'] (fun c => c == '0' || c == '1' || c == '_') body ||
    isMarked ['0'] (fun c => ('0' ≤ c && c ≤ '7') || c == '_') body ||
    body == ['0'] || isGrouped isNonzero body ||
    isMarked ['0', 'x'] (fun c => isHexDigit c || c == '_') body ||
    isSexagesimal isNonzero body

/-- An exponent with its sign, or nothing. -/
def isExponent : List Char → Bool
  | [] => true
  | mark :: sign :: digits =>
    (mark == 'e' || mark == 'E') && (sign == '-' || sign == '+') && !digits.isEmpty &&
      digits.all Char.isDigit
  | _ => false

/-- The places behind a point, and perhaps an exponent. -/
def isFraction (text : List Char) : Bool :=
  isExponent (text.dropWhile isDigitOrGap)

/-- The text before and after its first point. -/
def splitPoint? (text : List Char) : Option (List Char × List Char) :=
  match text.span (· != '.') with
  | (before, _ :: after) => some (before, after)
  | _ => none

def infinityWords : List (List Char) :=
  [".inf".toList, ".Inf".toList, ".INF".toList]

def nanWords : List (List Char) :=
  [".nan".toList, ".NaN".toList, ".NAN".toList]

/-- The spelling of a floating-point number. -/
def isFloat (text : List Char) : Bool :=
  let body := dropSign text
  infinityWords.contains body || nanWords.contains text ||
    match splitPoint? body with
    | none => false
    | some (before, after) =>
      (isGrouped Char.isDigit before && isFraction after) ||
        (isSexagesimal Char.isDigit before && after.all isDigitOrGap) ||
        (text.head? == some '.' && after.head?.any Char.isDigit && isFraction after)

def boolWords : List String :=
  ["yes", "Yes", "YES", "no", "No", "NO", "true", "True", "TRUE", "false", "False", "FALSE",
    "on", "On", "ON", "off", "Off", "OFF"]

def nullWords : List String :=
  ["~", "null", "Null", "NULL", ""]

end Implicit

open Implicit

/-- The kind of value that a plain scalar stands for. -/
def Tag.ofPlain (text : String) : Tag :=
  let word := dropLineFeed text
  let chars := word.toList
  if boolWords.contains word then .bool
  else if isFloat chars then .float
  else if isInt chars then .int
  else if word == "<<" then .merge
  else if nullWords.contains word then .null
  else if (Timestamp.ofText? chars).any Timestamp.isImplicit then .timestamp
  else if word == "=" then .defaultMark
  else if word == "!" || word == "&" || word == "*" then .unknown
  else .text

end SearchFilter.Yaml
