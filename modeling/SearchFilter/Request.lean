import SearchFilter.Directive
import SearchFilter.Lowering
import SearchFilter.Value.Equality

namespace SearchFilter

structure Request where
  index : String
  count : Bool
  filter : Value
  includeSource : Option Bool
  sort : Option Value
  start : Option Int
  size : Option Int
  deriving Repr, Inhabited

namespace Request

/-- The name of the record of a request. -/
def record : String := "QueryRequest"

/-- Giving a part of a request another value, which a request does not allow. -/
def assign (_ : Request) (name : String) (_ : Value) : Except Failure Request :=
  .error (.invalid ⟨record, [⟨[.name name], .frozenRecord⟩]⟩)

/-- The method that a request is sent by. -/
def method (r : Request) : Method :=
  if r.count then .count else .search

/-- A mapping whose keys were read as texts. -/
def readDocument (value : Value) : Field.Checked Value :=
  (Field.readMapping value).map Value.ofFields

/-- A request out of the entries of a mapping. -/
def ofEntries (entries : List (Value × Value)) : Field.Checked Request :=
  Request.mk <$> Field.required entries "index" Field.readText
    <*> Field.withDefault entries "count" false Field.readBool
    <*> Field.withDefault entries "filter" (.map []) readDocument
    <*> Field.withDefault entries "include_source" none (Field.readOptional Field.readBool)
    <*> Field.withDefault entries "sort" none (Field.readOptional readDocument)
    <*> Field.withDefault entries "from_" none (Field.readOptional Field.readInt)
    <*> Field.withDefault entries "size" none (Field.readOptional Field.readInt)

/-- An entry that is left out when there is nothing to say. -/
def optional (name : String) : Option Value → List (String × Value)
  | some value => [(name, value)]
  | none => []

/-- The entries of the body, in the order in which they are sent. -/
def bodyEntries (r : Request) : List (String × Value) :=
  optional "_source" (r.includeSource.map .bool) ++
    [("query", .ofFields [("bool", r.filter)])] ++
    optional "sort" r.sort ++ optional "from" (r.start.map .int) ++ optional "size" (r.size.map .int)

def body (r : Request) : Value :=
  .ofFields r.bodyEntries

/-- Two documents that may be absent are the same. -/
def sameOptional : Option Value → Option Value → Bool
  | some a, some b => Value.alike a b
  | none, none => true
  | _, _ => false

/-- Two requests are the same when all their parts are. -/
def same (a b : Request) : Bool :=
  a.index == b.index && a.count == b.count && Value.alike a.filter b.filter &&
    a.includeSource == b.includeSource && sameOptional a.sort b.sort &&
    a.start == b.start && a.size == b.size

/-- The whole request as a document. -/
def toDocument (r : Request) : Value :=
  .ofFields [("index", .text r.index), ("body", r.body)]

end Request

/-- How filters are compiled: the greatest number of hits that a cluster returns, which is a number
of any kind, and whether patterns that begin with a wildcard are logged. -/
structure Compiler where
  maxWindow : Value
  warnings : Bool
  deriving Repr, Inhabited

namespace Compiler

/-- The default window of a cluster. -/
def defaultWindow : Int := 10000

def standard : Compiler :=
  ⟨.int defaultWindow, true⟩

/-- Whether a number is less than one. -/
def lessThanOne (n : Number) : Except Failure Bool :=
  match n.less? (.int 1) with
  | some less => .ok less
  | none => .error .incomparable

/-- A compiler for a window that holds at least one hit. -/
def make (maxWindow : Value) (warnings : Bool) : Except Failure Compiler :=
  match maxWindow.asNumber? with
  | none => .error .wrongType
  | some size => match lessThanOne size with
    | .error failure => .error failure
    | .ok true => .error (.badValue .windowNotPositive)
    | .ok false => .ok ⟨maxWindow, warnings⟩

/-- A number that counts: zero says the same as nothing. -/
def positive? (n : Option Int) : Option Int :=
  n.filter (· ≠ 0)

/-- What the cluster's window has left behind the hits that are skipped. -/
def remaining (c : Compiler) (start : Option Int) : Except Failure Number :=
  match c.maxWindow.asNumber? with
  | none => .error .wrongType
  | some size =>
    let rest := size.minus (start.getD 0)
    match lessThanOne rest with
    | .error failure => .error failure
    | .ok true => .error (BuildFault.outsideWindow (start.getD 0) c.maxWindow).toFailure
    | .ok false => .ok rest

/-- How many hits a window asks for: its length, or all that the cluster's window has left. -/
def sizeOf (c : Compiler) (start length : Option Int) : Except Failure Number :=
  match length with
  | some n => .ok (.int n)
  | none => c.remaining start

def readIndex (index : Value) : Field.Checked String :=
  (Field.readText index).inside (.name "index")

def readSize (size : Number) : Field.Checked Int :=
  (Field.readInt (.number size)).inside (.name "size")

/-- A search request: hits without their documents, in the order of the last sort. -/
def searchRequest (c : Compiler) (index filter : Value) (orders : List HitOrder)
    (window : Option Window) : Except Failure Request :=
  let start := positive? (window.bind (·.start))
  match c.sizeOf start (positive? (window.bind (·.length))) with
  | .error failure => .error failure
  | .ok size =>
    let sort := orders.getLast?.map HitOrder.toDocument
    let build := fun name size => Request.mk name false filter (some false) sort start (some size)
    (build <$> readIndex index <*> readSize size).toExcept Request.record

/-- A count request: the filter alone. -/
def countRequest (index filter : Value) : Except Failure Request :=
  ((fun name => Request.mk name true filter none none none none)
    <$> readIndex index).toExcept Request.record

/-- The request of a filter with its directives. -/
def request (c : Compiler) (index : Value) (filter : Group) (orders : List HitOrder)
    (window : Option Window) (count : Bool) : Trace LogRecord Request := do
  let query ← filter.lower c.warnings
  Trace.lift
    (if count then countRequest index query.toDocument
      else c.searchRequest index query.toDocument orders window)

end Compiler

end SearchFilter
