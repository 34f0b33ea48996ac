import SearchFilter.Proofs.Lowering.Piece

/-!
What queries and filters mean. A hit is known by the tests that it passes, each test as it is sent.
A bool query accepts it by the rule of the cluster, read off the document of the query; a filter
accepts it as its conjunctions and negations read. Main statement: a filter and the query that it is
lowered to accept the same hits, whatever the tests say.
-/

namespace SearchFilter

/-- What a cluster makes of a bool query whose clauses have been judged: all that must match do, none
that must not match does, and one that should match does unless some other must. -/
def BoolQuery.verdict (must should mustNot : List Bool) : Bool :=
  must.all id && mustNot.all not && (!must.isEmpty || should.isEmpty || should.any id)

namespace Sent

mutual

/-- Whether a hit matches a clause as it is sent. -/
def accepts (passes : Value → Bool) : Value → Bool
  | .map [(.text name, body)] =>
    if name = "bool" then acceptsBool passes body else passes (.map [(.text name, body)])
  | test => passes test
termination_by structural v => v

/-- Whether a hit matches the body of a bool query. -/
def acceptsBool (passes : Value → Bool) : Value → Bool
  | .map entries => BoolQuery.verdict (judged passes "must" entries)
      (judged passes "should" entries) (judged passes "must_not" entries)
  | _ => false
termination_by structural v => v

/-- What the clauses under a name come to; a list that is left out has none. -/
def judged (passes : Value → Bool) (name : String) : List (Value × Value) → List Bool
  | [] => []
  | entry :: rest => match judgedEntry? passes name entry with
    | some verdicts => verdicts
    | none => judged passes name rest
termination_by structural entries => entries

/-- What the clauses of an entry come to, if it has the name: a list of clauses, or a single one. -/
def judgedEntry? (passes : Value → Bool) (name : String) : Value × Value → Option (List Bool)
  | (.text other, .list clauses) => if other = name then some (acceptsEach passes clauses) else none
  | (.text other, clause) => if other = name then some [accepts passes clause] else none
  | _ => none
termination_by structural entry => entry

def acceptsEach (passes : Value → Bool) : List Value → List Bool
  | [] => []
  | clause :: rest => accepts passes clause :: acceptsEach passes rest
termination_by structural clauses => clauses

end

variable {passes : Value → Bool}

theorem acceptsEach_eq_map (clauses : List Value) :
    acceptsEach passes clauses = clauses.map (accepts passes) := by
  induction clauses with
  | nil => rfl
  | cons clause rest ih => simp [acceptsEach, ih]

/-- A body is judged by its three lists, whether the empty ones are sent or left out. -/
theorem acceptsBool_documentOf (must should mustNot : List Value) :
    acceptsBool passes (BoolQuery.documentOf must should mustNot) =
      BoolQuery.verdict (must.map (accepts passes)) (should.map (accepts passes))
        (mustNot.map (accepts passes)) := by
  cases should <;> cases mustNot <;>
    simp [BoolQuery.documentOf, BoolQuery.optional, Value.ofFields, acceptsBool, judged,
      judgedEntry?, acceptsEach_eq_map]

theorem accepts_leaf (test : Leaf) :
    accepts passes (Clause.leaf test).toDocument = passes test.toDocument := by
  cases test <;> simp [Clause.toDocument, Leaf.toDocument, Leaf.single, accepts]

theorem accepts_not (test : Leaf) :
    accepts passes (Clause.not test).toDocument = !passes test.toDocument := by
  cases test <;>
    simp [Clause.toDocument, Leaf.toDocument, Leaf.single, accepts, acceptsBool, judged,
      judgedEntry?, BoolQuery.verdict]

theorem accepts_toClause (q : BoolQuery) :
    accepts passes q.toClause.toDocument = acceptsBool passes q.toDocument := by
  simp [BoolQuery.toClause, Clause.toDocument, Leaf.single, accepts, BoolQuery.toDocument]

end Sent

namespace Piece

/-- Whether a hit fits a piece: a test that it passes, or fails if negated, or a query. -/
def holds (passes : Value → Bool) : Piece → Bool
  | test negated t => passes t.toDocument != negated
  | nested q => Sent.acceptsBool passes q.toDocument

variable {passes : Value → Bool}

theorem accepts_alternative (p : Piece) :
    Sent.accepts passes p.alternative.toDocument = p.holds passes := by
  cases p with
  | test negated t =>
    cases negated <;>
      simp [alternative, holds, Sent.accepts_leaf, Sent.accepts_not]
  | nested q => exact Sent.accepts_toClause q

theorem holds_eq_required_and_excluded (p : Piece) :
    p.holds passes = (p.required?.all (Sent.accepts passes ·.toDocument) &&
      p.excluded?.all (!passes ·.toDocument)) := by
  cases p with
  | test negated t =>
    cases negated <;>
      simp [required?, excluded?, holds, Sent.accepts_leaf]
  | nested q => simp [required?, excluded?, holds, Sent.accepts_toClause]

end Piece

namespace Conjunction

/-- How a conjunction joins what its members come to. Without members nothing is asked for. -/
def joins : Conjunction → List Bool → Bool
  | .and, verdicts => verdicts.all id
  | .or, verdicts => verdicts.isEmpty || verdicts.any id

end Conjunction

namespace BoolQuery

variable {passes : Value → Bool}

theorem acceptsBool_toDocument (q : BoolQuery) :
    Sent.acceptsBool passes q.toDocument =
      verdict (q.must.map (Sent.accepts passes ·.toDocument))
        (q.should.map (Sent.accepts passes ·.toDocument)) (q.mustNot.map (passes ·.toDocument)) := by
  have tests : Sent.accepts passes ∘ Leaf.toDocument = (passes ·.toDocument) :=
    funext Sent.accepts_leaf
  simp only [toDocument, Sent.acceptsBool_documentOf, Clause.toDocuments_eq_map, List.map_map,
    tests]
  rfl

private theorem all_holds (pieces : List Piece) :
    pieces.all (Piece.holds passes) =
      ((pieces.filterMap Piece.required?).all (Sent.accepts passes ·.toDocument) &&
        (pieces.filterMap Piece.excluded?).all (!passes ·.toDocument)) := by
  induction pieces with
  | nil => rfl
  | cons p rest ih =>
    simp only [List.all_cons, ih, Piece.holds_eq_required_and_excluded p]
    cases required : p.required? <;> cases excluded : p.excluded? <;>
      simp [required, excluded, Bool.and_assoc, Bool.and_left_comm]

theorem acceptsBool_ofPieces (conjunction : Conjunction) (pieces : List Piece) :
    Sent.acceptsBool passes (ofPieces conjunction pieces).toDocument =
      conjunction.joins (pieces.map (Piece.holds passes)) := by
  rw [acceptsBool_toDocument]
  cases conjunction with
  | and =>
    have excluded : not ∘ (fun test : Leaf => passes test.toDocument) = (!passes ·.toDocument) :=
      rfl
    simp only [ofPieces, verdict, Conjunction.joins, List.all_map, Function.id_comp, excluded,
      all_holds, List.map_nil, List.isEmpty_nil, Bool.or_true, Bool.true_or, Bool.and_true]
  | or =>
    have alternatives : (Sent.accepts passes ·.toDocument) ∘ Piece.alternative =
        Piece.holds passes := funext Piece.accepts_alternative
    simp only [ofPieces, verdict, Conjunction.joins, List.map_map, alternatives, List.map_nil,
      List.all_nil, List.isEmpty_nil, Bool.not_true, Bool.false_or, Bool.true_and]

end BoolQuery

/-- The operator that a negated operator is the negation of. -/
def Operator.negates? : Operator → Option Operator
  | .ne => some .eq
  | .notIn => some .isIn
  | .isNull => some .isNotNull
  | _ => none

namespace Condition

/-- Whether a hit passes the test that an operator makes of the field and value of a condition. -/
def passesAs (passes : Value → Bool) (op : Operator) (c : Condition) : Bool :=
  match Leaf.make op (.text c.field) c.value with
  | .ok test => passes test.toDocument
  | .error _ => false

/-- A condition holds if its test is passed, one with a negated operator if the test of the operator
that it negates is not. -/
def holds (passes : Value → Bool) (c : Condition) : Bool :=
  match c.operator.negates? with
  | some op => !c.passesAs passes op
  | none => c.passesAs passes c.operator

variable {passes : Value → Bool}

/-- A negated operator makes the test of the one that it negates. -/
theorem holds_of_make {c : Condition} {test : Leaf}
    (made : Leaf.make c.operator (.text c.field) c.value = .ok test) :
    c.holds passes = (passes test.toDocument != c.operator.isNegated) := by
  obtain ⟨field, op, value⟩ := c
  cases op <;>
    simp_all [holds, passesAs, Operator.negates?, Operator.isNegated, Leaf.make]

end Condition

mutual

/-- Whether a hit satisfies a tree, its groups read by their conjunctions. -/
def Tree.holds (passes : Value → Bool) : Tree → Bool
  | .leaf c => c.holds passes
  | .group conjunction members => conjunction.joins (Tree.holdsEach passes members)
termination_by structural t => t

def Tree.holdsEach (passes : Value → Bool) : List Tree → List Bool
  | [] => []
  | t :: rest => t.holds passes :: Tree.holdsEach passes rest
termination_by structural ts => ts

end

/-- Whether a hit satisfies a filter. -/
def Group.holds (passes : Value → Bool) (g : Group) : Bool :=
  g.toTree.holds passes

variable {passes : Value → Bool}

theorem Tree.holdsEach_eq_map (trees : List Tree) :
    holdsEach passes trees = trees.map (holds passes) := by
  induction trees with
  | nil => rfl
  | cons t rest ih => simp [holdsEach, ih]

private theorem Draft.holds_pieces {trees : List Tree} {conjunction : Conjunction}
    {pieces : List Piece}
    (each : ∀ t ∈ trees, ∀ conjunction p, t.toDraft.piece conjunction = .ok p →
      p.holds passes = t.holds passes)
    (made : Draft.pieces conjunction (trees.map Tree.toDraft) = .ok pieces) :
    pieces.map (Piece.holds passes) = trees.map (Tree.holds passes) := by
  induction trees generalizing pieces with
  | nil =>
    cases made
    rfl
  | cons t rest ih =>
    obtain ⟨p, first, made⟩ := Result.bind_eq_ok_iff.mp made
    obtain ⟨others, later, made⟩ := Result.bind_eq_ok_iff.mp made
    cases made
    rw [List.map_cons, List.map_cons, each t List.mem_cons_self conjunction p first,
      ih (fun other present => each other (List.mem_cons_of_mem t present)) later]

/-- The piece of a tree means what the tree means. -/
theorem Tree.holds_piece {t : Tree} {conjunction : Conjunction} {p : Piece}
    (made : t.toDraft.piece conjunction = .ok p) : p.holds passes = t.holds passes := by
  induction t generalizing conjunction p with
  | leaf c =>
    obtain ⟨test, found, rfl⟩ := Result.map_eq_ok_iff.mp made
    exact (Condition.holds_of_make found).symm
  | group inner members ih =>
    rw [Tree.toDraft, Draft.piece, toDrafts_eq_map] at made
    obtain ⟨pieces, found, rfl⟩ := Result.map_eq_ok_iff.mp made
    have members := Draft.holds_pieces (fun t present _ _ => ih t present) found
    rw [Piece.holds, BoolQuery.acceptsBool_ofPieces, members, Tree.holds, holdsEach_eq_map]

/-- Lowering keeps the meaning: whatever tests there are and whichever of them a hit passes, the hit
matches the query that is sent exactly if it satisfies the filter. -/
theorem Group.accepts_lower_iff {Hit : Type} {g : Group} {warnings : Bool} {q : BoolQuery}
    (lowered : (g.lower warnings).result = .ok q) (passes : Hit → Value → Bool) (hit : Hit) :
    Sent.acceptsBool (passes hit) q.toDocument = true ↔ g.holds (passes hit) = true := by
  rw [Group.result_lower] at lowered
  obtain ⟨pieces, made, rfl⟩ := Result.map_eq_ok_iff.mp lowered
  have members : pieces.map (Piece.holds (passes hit)) = g.members.map (Tree.holds (passes hit)) :=
    Draft.holds_pieces (fun _ _ _ _ => Tree.holds_piece) made
  rw [BoolQuery.acceptsBool_ofPieces, members, Group.holds, Group.toTree, Tree.holds,
    Tree.holdsEach_eq_map]

/-- Negations on two levels, a range and a group without members, for a hit that passes no test. -/
theorem Group.accepts_lower_nested_negations :
    (Group.lower true ⟨.or, [.leaf ⟨"a", .ne, .int 1⟩, .group .and [.leaf ⟨"b", .isNull, .null⟩,
      .leaf ⟨"c", .between, .tuple [.int 10, .int 5]⟩, .group .or []]]⟩).result =
      .ok ⟨[], [.not (.term (.text "a") (.int 1)),
        .bool [.leaf (.range (.text "c") [(.gt, .int 5), (.lt, .int 10)]), .bool [] [] []] []
          [.hasValue (.text "b")]], []⟩ ∧
    (Sent.acceptsBool (fun _ => false) (BoolQuery.toDocument ⟨[], [.not (.term (.text "a") (.int 1)),
        .bool [.leaf (.range (.text "c") [(.gt, .int 5), (.lt, .int 10)]), .bool [] [] []] []
          [.hasValue (.text "b")]], []⟩) = true ↔
      Group.holds (fun _ => false) ⟨.or, [.leaf ⟨"a", .ne, .int 1⟩,
        .group .and [.leaf ⟨"b", .isNull, .null⟩, .leaf ⟨"c", .between, .tuple [.int 10, .int 5]⟩,
          .group .or []]]⟩ = true) :=
  ⟨rfl, Group.accepts_lower_iff (show (Group.lower true _).result = .ok _ from rfl)
    (fun (_ : Unit) _ => false) ()⟩

end SearchFilter
