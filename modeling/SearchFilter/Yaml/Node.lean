namespace SearchFilter.Yaml

/-- The kinds of values that a node may stand for. A merge stands for entries of other mappings,
and the default mark for the one value of a mapping that is used as a scalar. -/
inductive Tag
  | null
  | bool
  | int
  | float
  | binary
  | timestamp
  | text
  | sequence
  | mapping
  | set
  | orderedMap
  | pairs
  | merge
  | defaultMark
  | unknown
  deriving DecidableEq, Repr

namespace Tag

/-- What the names of the known tags start with. -/
def namespaceText : String := "tag:yaml.org,2002:"

/-- The known tags with the last parts of their names. -/
def names : List (String × Tag) :=
  [("null", null), ("bool", bool), ("int", int), ("float", float), ("binary", binary),
    ("timestamp", timestamp), ("str", text), ("seq", sequence), ("map", mapping), ("set", set),
    ("omap", orderedMap), ("pairs", pairs), ("merge", merge), ("value", defaultMark)]

/-- The tag of a name. -/
def ofName (name : String) : Tag :=
  ((names.find? fun entry => namespaceText ++ entry.1 == name).map (·.2)).getD unknown

/-- A kind of value that is filled after it was made, and so cannot be a key. -/
def isCollection : Tag → Bool
  | sequence | mapping | set | orderedMap | pairs => true
  | _ => false

end Tag

/-- A node; a reference to a collection from inside it has no end and is not followed. -/
inductive Node
  | scalar (tag : Tag) (text : String)
  | sequence (tag : Tag) (items : List Node)
  | mapping (tag : Tag) (entries : List (Node × Node))
  | enclosing
  deriving Repr, Inhabited

namespace Node

/-- What stands where a value is left out. -/
def empty : Node :=
  scalar .null ""

def tag : Node → Tag
  | scalar tag _ | sequence tag _ | mapping tag _ => tag
  | enclosing => .unknown

mutual

/-- How deep a node nests. -/
def height : Node → Nat
  | scalar .. | enclosing => 1
  | sequence _ items => itemsHeight items + 1
  | mapping _ entries => entriesHeight entries + 1
termination_by structural n => n

def itemsHeight : List Node → Nat
  | [] => 0
  | item :: rest => max item.height (itemsHeight rest)
termination_by structural items => items

def entriesHeight : List (Node × Node) → Nat
  | [] => 0
  | entry :: rest => max (entryHeight entry) (entriesHeight rest)
termination_by structural entries => entries

def entryHeight : Node × Node → Nat
  | (key, value) => max key.height value.height
termination_by structural entry => entry

end

end Node

end SearchFilter.Yaml
