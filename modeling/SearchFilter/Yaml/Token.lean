namespace SearchFilter.Yaml

/-- A tag as it is written: verbatim, or a handle and what follows it. -/
structure TagName where
  handle : Option String
  suffix : String
  deriving DecidableEq, Repr

/-- A line that speaks about the document after it. -/
inductive Pragma
  | version (major : Nat)
  | handle (name target : String)
  | unknown
  deriving DecidableEq, Repr

inductive Token
  | pragma (p : Pragma)
  | documentStart
  | documentEnd
  | textEnd
  | sequenceOpen
  | mappingOpen
  | blockClose
  | bracketOpen
  | bracketClose
  | braceOpen
  | braceClose
  | dash
  | comma
  | key
  | colon
  | reference (name : String)
  | anchor (name : String)
  | tag (name : TagName)
  | scalar (plain : Bool) (text : String)
  deriving DecidableEq, Repr

end SearchFilter.Yaml
