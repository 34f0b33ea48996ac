import SearchFilter.Tree

/-!
Filters as documents. A group is a mapping with a conjunction and a list of conditions; an entry of
the list is a group if it has a conjunction or conditions of its own, and a condition otherwise.
Reading reports the first defect in the order of the document, with the path to its entry.
-/

namespace SearchFilter

mutual

/-- The document of a tree. -/
def Tree.toDocument : Tree → Value
  | .leaf c => c.toDocument
  | .group conjunction members =>
    .ofFields [("conjunction", .text conjunction.name),
      ("conditions", .list (Tree.toDocuments members))]
termination_by structural t => t

def Tree.toDocuments : List Tree → List Value
  | [] => []
  | t :: rest => t.toDocument :: Tree.toDocuments rest
termination_by structural ts => ts

end

/-- The document of a group. -/
def Group.toDocument (g : Group) : Value :=
  g.toTree.toDocument

namespace Document

def conditionsKey : String := "conditions"

def conjunctionKey : String := "conjunction"

/-- What a group says about itself: the conditions have to be a list, then the conjunction has to
be known. -/
def header (path : Path) (entries : List (Value × Value)) : Except Refusal Conjunction :=
  match Value.lookup? conditionsKey entries with
  | none | some (.list _) =>
    match Conjunction.read ((Value.lookup? conjunctionKey entries).getD .null) with
    | .ok conjunction => .ok conjunction
    | .error refusal => .error refusal
  | some _ => .error (.malformed (.conditionsNoList path))

/-- An entry with one of the keys of a group is a group. -/
def isGroup (entries : List (Value × Value)) : Bool :=
  (Value.lookup? conditionsKey entries).isSome || (Value.lookup? conjunctionKey entries).isSome

/-- A condition at the end of a path. -/
def leaf (path : Path) (entries : List (Value × Value)) : Except Refusal Tree :=
  match Value.lookup? "field" entries with
  | none => .error (.malformed (.fieldMissing path))
  | some field =>
    match Condition.compose field ((Value.lookup? "operator" entries).getD .null)
        ((Value.lookup? "value" entries).getD .null) with
    | .ok condition => .ok (.leaf condition)
    | .error refusal => .error refusal

mutual

/-- The tree of an entry at the end of a path. -/
def entry (path : Path) : Value → Except Refusal Tree
  | .map entries =>
    if isGroup entries then do
      let conjunction ← header path entries
      let members ← conditions path entries
      .ok (.group conjunction members)
    else leaf path entries
  | _ => .error (.malformed (.entryNoMapping path))
termination_by structural v => v

/-- The members of a group, out of the first entry of its mapping that lists conditions. -/
def conditions (path : Path) : List (Value × Value) → Except Refusal (List Tree)
  | [] => .ok []
  | e :: rest => match listed? path e with
    | some members => members
    | none => conditions path rest
termination_by structural entries => entries

/-- The members that one entry of a mapping lists, if it is the one for conditions. -/
def listed? (path : Path) : Value × Value → Option (Except Refusal (List Tree))
  | (key, value) => match key with
    | .text name => if name == conditionsKey then some (members path value) else none
    | _ => none
termination_by structural e => e

/-- The trees of the items of a list. -/
def members (path : Path) : Value → Except Refusal (List Tree)
  | .list items => itemsFrom path 0 items
  | _ => .error (.malformed (.conditionsNoList path))
termination_by structural v => v

/-- The trees of items, the first of which has a given index. -/
def itemsFrom (path : Path) (index : Nat) : List Value → Except Refusal (List Tree)
  | [] => .ok []
  | item :: rest => do
    let tree ← entry (path ++ [index]) item
    let trees ← itemsFrom path (index + 1) rest
    .ok (tree :: trees)
termination_by structural items => items

end

end Document

/-- The group that a document describes. -/
def Group.ofDocument (document : Value) : Except Refusal Group :=
  match document with
  | .map entries => do
    let conjunction ← Document.header [] entries
    let members ← Document.conditions [] entries
    .ok ⟨conjunction, members⟩
  | _ => .error (.malformed (.groupNoMapping []))

end SearchFilter
