import SearchFilter.Clause
import SearchFilter.NaturalKey
import SearchFilter.Trace
import SearchFilter.Tree.Draft
import SearchFilter.Value.Equality

/-!
Lowering a filter to a bool query. Under a conjunction of all, a condition goes to the clauses that
must match, or negated to those that must not; under a conjunction of any, every member goes to the
clauses of which one should match, a negated condition wrapped in a query of its own because the
list has no place for an exclusion. Each pattern that begins with a wildcard is logged.
-/

namespace SearchFilter

namespace Value

/-- The items that a value runs through: its parts, its characters, its bytes, or its keys. -/
def items? : Value → Option (List Value)
  | list items | tuple items | set items => some items
  | bytes content => some (content.map fun byte => .int byte.toNat)
  | map entries => some (entries.map (·.1))
  | value => value.asText?.map fun s => s.toList.map fun c => .text (String.singleton c)

end Value

namespace Leaf

/-- A test that names its field as a key. -/
def keyed (field : Value) (test : Leaf) : Except Failure Leaf :=
  if field.isKey then .ok test else .error .wrongType

/-- The test of a field against each of the items of a value. -/
def anyOf (field value : Value) : Except Failure Leaf :=
  match value.items? with
  | some items => keyed field (.terms field items)
  | none => .error .wrongType

/-- The test of a field against the open interval between two values in natural order. -/
def within (field value : Value) : Except Failure Leaf :=
  match value.items? with
  | none => .error .wrongType
  | some items => match NaturalKey.sortValues items with
    | .error failure => .error failure
    | .ok [low, high] => keyed field (.range field [(.gt, low), (.lt, high)])
    | .ok (_ :: _ :: _ :: _) => .error (.badValue .tooManyParts)
    | .ok few => .error (.badValue (.tooFewParts few.length))

/-- The test that an operator makes of a field and a value. For a negated operator it is the test of
the documents to exclude. -/
def make (op : Operator) (field value : Value) : Except Failure Leaf :=
  match op with
  | .eq | .ne => keyed field (.term field value)
  | .isIn | .notIn => anyOf field value
  | .isNull | .isNotNull => .ok (.hasValue field)
  | .gt => keyed field (.range field [(.gt, value)])
  | .ge => keyed field (.range field [(.gte, value)])
  | .lt => keyed field (.range field [(.lt, value)])
  | .le => keyed field (.range field [(.lte, value)])
  | .between => within field value
  | .startsWith => keyed field (.startsWith field value)
  | .endsWith => keyed field (.wildcard field ("*" ++ value.display))
  | .contains => keyed field (.wildcard field ("*" ++ value.display ++ "*"))

end Leaf

namespace BoolQuery

/-- Adds the test of a condition under a conjunction. -/
def addLeaf (q : BoolQuery) (conjunction : Conjunction) (op : Operator) (test : Leaf) :
    BoolQuery :=
  match conjunction, op.isNegated with
  | .and, false => { q with must := q.must ++ [.leaf test] }
  | .and, true => { q with mustNot := q.mustNot ++ [test] }
  | .or, false => { q with should := q.should ++ [.leaf test] }
  | .or, true => { q with should := q.should ++ [.not test] }

/-- Adds the query of a nested group under a conjunction. -/
def addGroup (q : BoolQuery) (conjunction : Conjunction) (inner : BoolQuery) : BoolQuery :=
  match conjunction with
  | .and => { q with must := q.must ++ [inner.toClause] }
  | .or => { q with should := q.should ++ [inner.toClause] }

end BoolQuery

namespace Lowering

/-- The record of a pattern that begins with a wildcard. -/
def wildcardWarning (field : Value) (op : Operator) : LogRecord :=
  ⟨.warning, .compiler, "Leading-wildcard query on field '" ++ field.display ++ "' (" ++
    op.name ++ ") can be slow on large indexes"⟩

/-- Logs a pattern that begins with a wildcard, if such patterns are to be logged. -/
def warn (wanted : Bool) (field : Value) (op : Operator) : Trace LogRecord Unit :=
  if wanted && op.leadsWithWildcard then Trace.emit (wildcardWarning field op) else pure ()

/-- Lowers a condition into the query of its group. -/
def condition (warnings : Bool) (conjunction : Conjunction) (field : Value)
    (operator : Slot Operator) (value : Value) (q : BoolQuery) : Trace LogRecord BoolQuery :=
  match operator with
  | .foreign other =>
    .fail (.unsupported (Unsupported.of other (some (.conjunction conjunction)) []))
  | .known op => do
    warn warnings field op
    let test ← Trace.lift (Leaf.make op field value)
    pure (q.addLeaf conjunction op test)

/-- The refusal of a group whose conjunction is none. -/
def badGroup (conjunction : Value) : Failure :=
  .unsupported (Unsupported.of (.text "group")
    (match conjunction with
      | .null => none
      | other => some other) [])

mutual

/-- Lowers a member into the query of its group. -/
def member (warnings : Bool) (conjunction : Conjunction) : Draft → BoolQuery → Trace LogRecord BoolQuery
  | .leaf field operator value, q => condition warnings conjunction field operator value q
  | .group (.foreign other) _, _ => .fail (badGroup other)
  | .group (.known inner) drafts, q => do
    let nested ← members warnings inner drafts .empty
    pure (q.addGroup conjunction nested)
termination_by structural draft => draft

/-- Lowers members in order into the query of their group. -/
def members (warnings : Bool) (conjunction : Conjunction) :
    List Draft → BoolQuery → Trace LogRecord BoolQuery
  | [], q => pure q
  | draft :: rest, q => do
    let q ← member warnings conjunction draft q
    members warnings conjunction rest q
termination_by structural drafts => drafts

end

/-- Lowers a group whose conjunction may be foreign. -/
def group (warnings : Bool) (conjunction : Slot Conjunction) (drafts : List Draft) :
    Trace LogRecord BoolQuery :=
  match conjunction with
  | .foreign other => .fail (badGroup other)
  | .known c => members warnings c drafts .empty

end Lowering

/-- The bool query of a filter. -/
def Group.lower (warnings : Bool) (g : Group) : Trace LogRecord BoolQuery :=
  Lowering.group warnings (.known g.conjunction) (Tree.toDrafts g.members)

end SearchFilter
