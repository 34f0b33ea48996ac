import SearchFilter.Store
import SearchFilter.Settings
import SearchFilter.Text.LetterCase

namespace SearchFilter

structure Query where
  entityType : Value
  root : GroupId
  orders : List HitOrder
  window : Option Window
  count : Value
  compiler : Compiler
  deriving Repr

namespace Query

/-- A direction as it is given: a text counts in any case. -/
def directionOf (direction : Value) : Value :=
  match direction.asText? with
  | some s => .text (String.ofList (Text.upper s.toList))
  | none => direction

/-- Orders the hits by a field. -/
def sort (q : Query) (field direction : Value) : Except Failure Query :=
  let entries := [(Value.text "field", field), (.text "direction", directionOf direction)]
  match HitOrder.ofEntries entries with
  | .ok order => .ok { q with orders := q.orders ++ [order] }
  | .faults details => .error (BuildFault.invalidSort field ⟨"SortSpec", details⟩).toFailure
  | .stopped failure => .error failure

/-- Sets the window of hits, or drops it when neither of its parts is given. -/
def range (q : Query) (start length : Value) : Except Failure Query :=
  match start, length with
  | .null, .null => .ok { q with window := none }
  | _, _ =>
    match Window.ofEntries [(.text "start", start), (.text "length", length)] with
    | .ok window => .ok { q with window := some window }
    | .faults details =>
      .error (BuildFault.invalidRange start length ⟨"RangeSpec", details⟩).toFailure
    | .stopped failure => .error failure

/-- Chooses between counting and searching. -/
def setCount (q : Query) (count : Value) : Query :=
  { q with count }

/-- The query counts hits instead of listing them. -/
def counts (q : Query) : Bool :=
  q.count.isTruthy

/-- The request of the query, given the tree of its root. -/
def requestOf (q : Query) (root : Group) : Trace LogRecord Request :=
  q.compiler.request q.entityType root q.orders q.window q.counts

/-- The request of the query as its groups are now. -/
def request (q : Query) (groups : Store) : Trace LogRecord Request :=
  match groups.tree? q.root with
  | some root => q.requestOf root
  | none => .fail .tooDeep

/-- A new query over an entity type, with an empty group at its root. -/
def make (groups : Store) (entityType conjunction : Value) (settings : Option Settings) :
    Except Failure (Store × Query) := do
  if !entityType.isTruthy then throw (.build .noEntityType)
  let conjunction ← match Conjunction.read conjunction with
    | .ok c => pure c
    | .error refusal => throw refusal.toFailure
  let compiler ← match settings with
    | some s => s.query.compiler
    | none => pure .standard
  let (groups, root) := groups.create ⟨conjunction, []⟩
  pure (groups, ⟨entityType, root, [], none, .bool false, compiler⟩)

end Query

end SearchFilter
