import SearchFilter.Value.Equality
import SearchFilter.Yaml.Node.Base64
import SearchFilter.Yaml.Node.Number
import SearchFilter.Yaml.Node.Timestamp
import SearchFilter.Yaml.Node
import SearchFilter.Yaml.Problem

/-!
The values that nodes stand for. Collections are filled level by level, so of two defects the one
nearer to the root shows, and of two on one level the first.
-/

namespace SearchFilter.Yaml

/-- A problem and how many levels below the root it lies. -/
structure Defect where
  depth : Nat
  problem : Problem

abbrev Content (α : Type) := Except Defect α

namespace Content

variable {α β γ : Type}

/-- The problem of a node itself. -/
def defect (problem : Problem) : Content α :=
  .error ⟨0, problem⟩

/-- A node whose tag and content do not fit. -/
def misfit : Content α :=
  defect (.broken .values)

/-- The content of a collection as seen from the collection. -/
def below : Content α → Content α
  | .error d => .error { d with depth := d.depth + 1 }
  | .ok a => .ok a

/-- Two contents side by side. -/
def both (f : α → β → γ) : Content α → Content β → Content γ
  | .ok a, .ok b => .ok (f a b)
  | .error d, .error e => .error (if e.depth < d.depth then e else d)
  | .error d, .ok _ => .error d
  | .ok _, .error e => .error e

/-- Contents side by side. -/
def all : List (Content α) → Content (List α)
  | [] => .ok []
  | content :: rest => both List.cons content (all rest)

def ofResult : Except Failure α → Content α
  | .ok a => .ok a
  | .error failure => defect (.failed failure)

end Content

namespace Node

open Content

mutual

/-- The text of a scalar; a mapping with a default entry is used as the scalar in it. -/
def scalarText? : Node → Option String
  | scalar _ text => some text
  | mapping _ entries => defaultText? entries
  | _ => none
termination_by structural n => n

def defaultText? : List (Node × Node) → Option String
  | [] => none
  | entry :: rest => match entryText? entry with
    | some found => found
    | none => defaultText? rest
termination_by structural entries => entries

/-- The text of an entry, if it is a default one. -/
def entryText? : Node × Node → Option (Option String)
  | (key, value) => if key.tag = .defaultMark then some value.scalarText? else none
termination_by structural entry => entry

end

/-- The words for truth values. -/
def boolOf? (word : String) : Option Bool :=
  if ["yes", "true", "on"].contains word then some true
  else if ["no", "false", "off"].contains word then some false
  else none

/-- The value of a scalar that has the text. -/
def scalarValue (tag : Tag) (text : String) : Content Value :=
  match tag with
  | .null => .ok .null
  | .text => .ok (.text text)
  | .int => ofResult ((Number.readInt text).map .int)
  | .float => ofResult ((Number.readFloat text).map .float)
  | .bool =>
    let word := text.map Char.toLower
    match boolOf? word with
    | some b => .ok (.bool b)
    | none => defect (.failed (.noKey (.text word)))
  | .binary =>
    if text.toList.all fun c => c.toNat < 128 then
      match Base64.bytes? text.toList with
      | some content => .ok (.bytes content)
      | none => misfit
    else misfit
  | .timestamp => match Timestamp.ofText? (dropLineFeed text).toList with
    | none => defect (.failed .noAttribute)
    | some t => match t.point with
      | .ok (.inl date) => .ok (.date date)
      | .ok (.inr moment) => .ok (.moment moment)
      | .error fault => defect (.failed (.badValue (.calendar fault)))
  | _ => misfit

/-- A key that is a default mark is a text. -/
def plainKey : Node → Node
  | scalar .defaultMark text => scalar .text text
  | key => key

/-- The entries of a mapping with those of the mappings that it merges in front. Of several
mappings in a list, the first counts most. -/
def mergedEntries : Nat → List (Node × Node) → Except Problem (List (Node × Node))
  | 0, _ => .error (.failed .tooDeep)
  | fuel + 1, entries => do
    let own := (entries.filter fun entry => entry.1.tag != .merge).map fun (key, value) =>
      (plainKey key, value)
    let merged ← (entries.filter fun entry => entry.1.tag == .merge).mapM fun (_, value) =>
      match value with
      | mapping _ inner => mergedEntries fuel inner
      | sequence _ items => do
        let lists ← items.mapM fun item => match item with
          | mapping _ inner => mergedEntries fuel inner
          | enclosing => .error (.failed .tooDeep)
          | _ => .error (.broken .values)
        pure lists.reverse.flatten
      | enclosing => .error (.failed .tooDeep)
      | scalar .. => .error (.broken .values)
    pure (merged.flatten ++ own)

/-- The one entry of an item of an ordered mapping. -/
def singleEntry? : Node → Option (Node × Node)
  | mapping _ [entry] => some entry
  | _ => none

/-- The value of a node that nests no deeper than the fuel. -/
def contentWithin : Nat → Node → Content Value
  | 0, _ => defect (.failed .tooDeep)
  | fuel + 1, node =>
    let keyed := fun (key value : Node) =>
      let keyContent := if key.tag.isCollection then misfit else contentWithin fuel key
      both Prod.mk keyContent (contentWithin fuel value)
    let keyedAll := match node with
      | mapping _ entries => match mergedEntries fuel entries with
        | .ok entries => (all (entries.map fun (key, value) => keyed key value)).map
            Value.collectEntries
        | .error problem => defect problem
      | _ => misfit
    match node.tag with
    | .mapping => below (keyedAll.map .map)
    | .set => below (keyedAll.map fun entries => .set (entries.map (·.1)))
    | .sequence => match node with
      | sequence _ items => below ((all (items.map (contentWithin fuel))).map .list)
      | _ => below misfit
    | .orderedMap | .pairs => match node with
      | sequence _ items => below ((all (items.map fun item => match singleEntry? item with
          | some (key, value) => both (fun k v => .tuple [k, v]) (contentWithin fuel key)
              (contentWithin fuel value)
          | none => misfit)).map .list)
      | _ => below misfit
    | tag => match node, node.scalarText? with
      | enclosing, _ => defect (.failed .tooDeep)
      | _, some text => scalarValue tag text
      | _, none => misfit

/-- The value that a node stands for. -/
def content (node : Node) : Except Problem Value :=
  (contentWithin (node.height + 1) node).mapError (·.problem)

end Node

end SearchFilter.Yaml
