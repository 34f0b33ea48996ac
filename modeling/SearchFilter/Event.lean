import SearchFilter.Request

namespace SearchFilter

inductive Event
  | logged (record : LogRecord)
  | opened (options : Value)
  | sent (method : Method) (index : String) (body : Value)
  | closed
  | printed (text : String)
  deriving Repr

/-- What a cluster does with a request: it answers a value, or fails with a named error. -/
inductive Reply
  | value (v : Value)
  | failure (name message : String)
  deriving Repr

/-- The cluster as requests find it. -/
structure Cluster where
  search : Reply
  count : Reply
  deriving Repr

namespace Cluster

/-- The answer to a search without hits. -/
def noHits : Reply :=
  .value (.ofFields [("hits", .ofFields [("hits", .list [])])])

/-- The answer to a count of nothing. -/
def noCount : Reply :=
  .value (.ofFields [("count", .int 0)])

/-- A cluster that holds nothing. -/
def vacant : Cluster :=
  ⟨noHits, noCount⟩

def reply (c : Cluster) : Method → Reply
  | .search => c.search
  | .count => c.count

end Cluster

/-- The failure that a named error stands for: one of the library's own, or a foreign one. -/
def failureNamed (name message : String) : Failure :=
  match ErrorKind.ofName? name with
  | some .unsupportedOperator => .unsupported (Unsupported.of (.text message) none [])
  | some kind => .raised kind message
  | none => .foreign name message

end SearchFilter
