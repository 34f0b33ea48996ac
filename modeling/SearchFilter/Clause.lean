import SearchFilter.Value

/-!
The clauses that a search cluster understands. A leaf tests one field; a bool query combines
clauses in three lists: those that must match, those of which one should match, and those that must
not match.
-/

namespace SearchFilter

/-- A bound of a range. -/
inductive Bound
  | gt
  | gte
  | lt
  | lte
  deriving DecidableEq, Repr

def Bound.name : Bound → String
  | .gt => "gt"
  | .gte => "gte"
  | .lt => "lt"
  | .lte => "lte"

/-- A test of one field. A field is a text in every checked filter, and any value in others. -/
inductive Leaf
  | term (field value : Value)
  | terms (field : Value) (values : List Value)
  | hasValue (field : Value)
  | range (field : Value) (bounds : List (Bound × Value))
  | startsWith (field value : Value)
  | wildcard (field : Value) (pattern : String)
  deriving Repr

inductive Clause
  | leaf (test : Leaf)
  | not (test : Leaf)
  | bool (must should : List Clause) (mustNot : List Leaf)
  deriving Repr

/-- The three lists of a bool query. -/
structure BoolQuery where
  must : List Clause
  should : List Clause
  mustNot : List Leaf
  deriving Repr

namespace Leaf

/-- A mapping with one key. -/
def single (key : String) (value : Value) : Value :=
  .map [(.text key, value)]

/-- The document of a test, as it is sent to a cluster. -/
def toDocument : Leaf → Value
  | term field value => single "term" (.map [(field, value)])
  | terms field values => single "terms" (.map [(field, .list values)])
  | hasValue field => single "exists" (.map [(.text "field", field)])
  | range field bounds => single "range"
      (.map [(field, .map (bounds.map fun (bound, value) => (.text bound.name, value)))])
  | startsWith field value => single "prefix" (.map [(field, value)])
  | wildcard field pattern => single "wildcard" (.map [(field, .text pattern)])

end Leaf

namespace BoolQuery

def empty : BoolQuery :=
  ⟨[], [], []⟩

def toClause (q : BoolQuery) : Clause :=
  .bool q.must q.should q.mustNot

/-- A list under a name, left out when it is empty. -/
def optional (name : String) (items : List Value) : List (String × Value) :=
  if items.isEmpty then [] else [(name, .list items)]

/-- The document of the three lists; that of the clauses that must match is always there. -/
def documentOf (must should mustNot : List Value) : Value :=
  .ofFields ([("must", .list must)] ++ optional "must_not" mustNot ++ optional "should" should)

end BoolQuery

mutual

/-- The document of a clause. -/
def Clause.toDocument : Clause → Value
  | .leaf test => test.toDocument
  | .not test => Leaf.single "bool" (Leaf.single "must_not" test.toDocument)
  | .bool must should mustNot => Leaf.single "bool"
      (BoolQuery.documentOf (Clause.toDocuments must) (Clause.toDocuments should)
        (mustNot.map Leaf.toDocument))
termination_by structural c => c

def Clause.toDocuments : List Clause → List Value
  | [] => []
  | c :: rest => c.toDocument :: Clause.toDocuments rest
termination_by structural cs => cs

end

/-- The document of a bool query. -/
def BoolQuery.toDocument (q : BoolQuery) : Value :=
  BoolQuery.documentOf (Clause.toDocuments q.must) (Clause.toDocuments q.should)
    (q.mustNot.map Leaf.toDocument)

end SearchFilter
