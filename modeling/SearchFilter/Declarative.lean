import SearchFilter.Session

namespace SearchFilter.Declarative

/-- Directives of a query whose groups are not touched. -/
def foldSorts (sort : Query → Value → Except Failure Query) (q : Query) :
    List Value → Except Failure Query
  | [] => .ok q
  | entry :: rest => do foldSorts sort (← sort q entry) rest

/-- One sort directive: a field, a mapping, or a field and perhaps a direction in a list. -/
def sortEntry (q : Query) (entry : Value) : Except Failure Query :=
  match entry with
  | .map entries => q.sort ((Value.lookup? "field" entries).getD (.text ""))
      ((Value.lookup? "direction" entries).getD (.text "ASC"))
  | .list [field] | .tuple [field] => q.sort field (.text "ASC")
  | .list [field, direction] | .tuple [field, direction] => q.sort field direction
  | other => match other.asText? with
    | some _ => q.sort other (.text "ASC")
    | none => .error (Malformed.invalidSort other).toFailure

/-- The sort directives of a document, one after another. -/
def applySorts (q : Query) (sorts : Value) : Except Failure Query :=
  if !sorts.isTruthy then .ok q
  else match sorts.items? with
    | none => .error .wrongType
    | some entries => foldSorts sortEntry q entries

/-- The window of a document. -/
def applyRange (q : Query) (range : Value) : Except Failure Query :=
  if !range.isTruthy then .ok q
  else match range with
    | .map entries => q.range ((Value.lookup? "start" entries).getD .null)
        ((Value.lookup? "length" entries).getD .null)
    | other => .error (Malformed.invalidRange other).toFailure

def applyCount (q : Query) (count : Value) : Query :=
  if count.isTruthy then q.setCount (.bool true) else q

/-- The directives of a document. -/
def applyDirectives (q : Query) (entries : List (Value × Value)) : Except Failure Query := do
  let get := fun name => (Value.lookup? name entries).getD .null
  let q ← applySorts q (get "sort")
  let q ← applyRange q (get "range")
  pure (applyCount q (get "count"))

/-- The query that a document describes, in a store of its own. -/
def build (document index : Value) (settings : Option Settings) :
    Except Failure (Store × Query) := do
  let filter ← match Group.ofDocument document with
    | .ok g => pure g
    | .error refusal => throw refusal.toFailure
  let (groups, query) ← Query.make .empty index (.conjunction filter.conjunction) settings
  let (groups, members) := groups.insertAll filter.members
  let groups := groups.setMembers query.root members
  let entries := match document with
    | .map entries => entries
    | _ => []
  let query ← applyDirectives query entries
  pure (groups, query)

end SearchFilter.Declarative
