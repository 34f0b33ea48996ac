import SearchFilter.Tree.Record

/-!
A store of groups that are shared. Members refer to groups by number, so a group may stand in
several places and a change of it is seen in all of them.
-/

namespace SearchFilter

abbrev GroupId := Nat

inductive Member
  | leaf (c : Condition)
  | group (id : GroupId)
  deriving Repr, Inhabited

/-- A group in a store. Its conjunction never changes. -/
structure Cell where
  conjunction : Conjunction
  members : List Member
  deriving Repr, Inhabited

/-- Groups by number, in the order of their creation. -/
structure Store where
  cells : List Cell
  deriving Repr, Inhabited

namespace Store

def empty : Store :=
  ⟨[]⟩

def cell? (s : Store) (id : GroupId) : Option Cell :=
  s.cells[id]?

/-- A new group, and its number. -/
def create (s : Store) (cell : Cell) : Store × GroupId :=
  (⟨s.cells ++ [cell]⟩, s.cells.length)

/-- Gives a group other members. -/
def setMembers (s : Store) (id : GroupId) (members : List Member) : Store :=
  match s.cell? id with
  | some cell => ⟨s.cells.set id { cell with members }⟩
  | none => s

/-- Puts a member behind the others of a group. A group is no member of itself. -/
def add (s : Store) (id : GroupId) (member : Member) : Except Malformed Store :=
  match s.cell? id with
  | none => .ok s
  | some cell =>
    let added := s.setMembers id (cell.members ++ [member])
    match member with
    | .leaf _ => .ok added
    | .group other => if other = id then .error .containsItself else .ok added

mutual

/-- Stores a tree, its groups as new ones. -/
def insert (s : Store) : Tree → Store × Member
  | .leaf c => (s, .leaf c)
  | .group conjunction trees =>
    let (s, members) := insertAll s trees
    let (s, id) := s.create ⟨conjunction, members⟩
    (s, .group id)
termination_by structural t => t

def insertAll (s : Store) : List Tree → Store × List Member
  | [] => (s, [])
  | t :: rest =>
    let (s, member) := insert s t
    let (s, members) := insertAll s rest
    (s, member :: members)
termination_by structural ts => ts

end

/-- Stores a group as a new one. -/
def insertGroup (s : Store) (g : Group) : Store × GroupId :=
  let (s, members) := s.insertAll g.members
  s.create ⟨g.conjunction, members⟩

/-- A member with the group that it refers to in place of the reference. -/
def unfoldMember (unfold : GroupId → Option Group) : Member → Option Tree
  | .leaf c => some (.leaf c)
  | .group id => (unfold id).map Group.toTree

/-- The tree of a group, at most `fuel` groups deep. -/
def unfoldWithin (s : Store) : Nat → GroupId → Option Group
  | 0, _ => none
  | fuel + 1, id =>
    (s.cell? id).bind fun cell =>
      (cell.members.mapM (unfoldMember (unfoldWithin s fuel))).map fun trees =>
        ⟨cell.conjunction, trees⟩

/-- The tree of a group with every reference replaced by what it refers to. Without a group inside
itself no path is longer than the store. -/
def tree? (s : Store) (id : GroupId) : Option Group :=
  s.unfoldWithin (s.cells.length + 1) id

end Store

end SearchFilter
