import Mathlib.Data.List.Forall2
import SearchFilter.Lowering
import SearchFilter.Proofs.Result
import SearchFilter.Proofs.Tree

namespace SearchFilter

/-- What a member of a group is lowered to. -/
inductive Piece
  | test (negated : Bool) (test : Leaf)
  | nested (query : BoolQuery)
  deriving Repr

namespace Piece

/-- The clause that has to match where all pieces are to hold. -/
def required? : Piece → Option Clause
  | test false t => some (.leaf t)
  | test true _ => none
  | nested q => some q.toClause

/-- The test that has to fail where all pieces are to hold. -/
def excluded? : Piece → Option Leaf
  | test true t => some t
  | test false _ | nested _ => none

/-- The clause that stands for the piece where any piece may hold. -/
def alternative : Piece → Clause
  | test false t => .leaf t
  | test true t => .not t
  | nested q => q.toClause

end Piece

theorem Clause.toDocuments_eq_map (clauses : List Clause) :
    toDocuments clauses = clauses.map toDocument := by
  induction clauses with
  | nil => rfl
  | cons clause rest ih => simp [toDocuments, ih]

namespace BoolQuery

/-- The lists of two queries one after another. -/
protected def append (q r : BoolQuery) : BoolQuery :=
  ⟨q.must ++ r.must, q.should ++ r.should, q.mustNot ++ r.mustNot⟩

instance : Append BoolQuery := ⟨BoolQuery.append⟩

/-- The query of a group out of the pieces of its members. -/
def ofPieces : Conjunction → List Piece → BoolQuery
  | .and, pieces => ⟨pieces.filterMap Piece.required?, [], pieces.filterMap Piece.excluded?⟩
  | .or, pieces => ⟨[], pieces.map Piece.alternative, []⟩

variable {q r s : BoolQuery} {conjunction : Conjunction}

theorem append_def (q r : BoolQuery) :
    q ++ r = ⟨q.must ++ r.must, q.should ++ r.should, q.mustNot ++ r.mustNot⟩ := rfl

theorem append_assoc (q r s : BoolQuery) : q ++ r ++ s = q ++ (r ++ s) := by
  simp [append_def]

@[simp] theorem empty_append (q : BoolQuery) : empty ++ q = q := rfl

@[simp] theorem append_empty (q : BoolQuery) : q ++ empty = q := by
  cases q
  simp [append_def, empty]

@[simp] theorem ofPieces_nil : ofPieces conjunction [] = empty := by
  cases conjunction <;> rfl

theorem ofPieces_append (first rest : List Piece) :
    ofPieces conjunction (first ++ rest) =
      ofPieces conjunction first ++ ofPieces conjunction rest := by
  cases conjunction <;> simp [ofPieces, append_def]

theorem addLeaf_eq_append (op : Operator) (test : Leaf) :
    q.addLeaf conjunction op test = q ++ ofPieces conjunction [.test op.isNegated test] := by
  cases conjunction <;> cases negated : op.isNegated <;>
    simp [addLeaf, negated, ofPieces, append_def, Piece.required?, Piece.excluded?,
      Piece.alternative]

theorem addGroup_eq_append (inner : BoolQuery) :
    q.addGroup conjunction inner = q ++ ofPieces conjunction [.nested inner] := by
  cases conjunction <;>
    simp [addGroup, ofPieces, append_def, Piece.required?, Piece.excluded?, Piece.alternative]

end BoolQuery

namespace Draft

mutual

/-- The piece of a member of a group with a given conjunction. -/
def piece (conjunction : Conjunction) : Draft → Except Failure Piece
  | .leaf _ (.foreign other) _ =>
    .error (.unsupported (Unsupported.of other (some (.conjunction conjunction)) []))
  | .leaf field (.known op) value => (Leaf.make op field value).map (.test op.isNegated)
  | .group (.foreign other) _ => .error (Lowering.badGroup other)
  | .group (.known inner) members =>
    (pieces inner members).map fun found => .nested (.ofPieces inner found)
termination_by structural d => d

/-- The pieces of members in order, up to the first that has none. -/
def pieces (conjunction : Conjunction) : List Draft → Except Failure (List Piece)
  | [] => .ok []
  | d :: rest => do
    let first ← piece conjunction d
    let others ← pieces conjunction rest
    .ok (first :: others)
termination_by structural ds => ds

end

theorem pieces_eq_ok_iff {conjunction : Conjunction} {drafts : List Draft} {found : List Piece} :
    pieces conjunction drafts = .ok found ↔
      List.Forall₂ (fun d p => piece conjunction d = .ok p) drafts found := by
  induction drafts generalizing found with
  | nil => simp [pieces, eq_comm]
  | cons d rest ih =>
    rw [pieces, Result.bind_eq_ok_iff, List.forall₂_cons_left_iff]
    constructor
    · rintro ⟨first, head, tail⟩
      obtain ⟨others, later, made⟩ := Result.bind_eq_ok_iff.mp tail
      cases made
      exact ⟨first, others, head, ih.mp later, rfl⟩
    · rintro ⟨first, others, head, later, rfl⟩
      exact ⟨first, head, Result.bind_eq_ok_iff.mpr ⟨others, ih.mpr later, rfl⟩⟩

/-- A condition has a piece exactly if its operator is one and makes a test. -/
theorem piece_leaf_eq_ok_iff {conjunction : Conjunction} {field value : Value}
    {operator : Slot Operator} {p : Piece} :
    (leaf field operator value).piece conjunction = .ok p ↔
      ∃ op t, operator = .known op ∧ Leaf.make op field value = .ok t ∧ .test op.isNegated t = p := by
  cases operator with
  | foreign other => simp [piece]
  | known op => simp [piece, Result.map_eq_ok_iff]

theorem piece_group_eq_ok_iff {conjunction : Conjunction} {inner : Slot Conjunction}
    {members : List Draft} {p : Piece} :
    (group inner members).piece conjunction = .ok p ↔ ∃ own found, inner = .known own ∧
      pieces own members = .ok found ∧ .nested (.ofPieces own found) = p := by
  cases inner with
  | foreign other => simp [piece]
  | known own => simp [piece, Result.map_eq_ok_iff]

end Draft

namespace Lowering

variable {warnings : Bool} {conjunction : Conjunction}

theorem result_warn (wanted : Bool) (field : Value) (op : Operator) :
    (warn wanted field op).result = .ok () := by
  unfold warn
  split <;> rfl

theorem result_condition (warnings : Bool) (conjunction : Conjunction) (field value : Value)
    (op : Operator) (q : BoolQuery) :
    (condition warnings conjunction field (.known op) value q).result =
      (Leaf.make op field value).map (q.addLeaf conjunction op) := by
  simp only [condition, Trace.result_bind, result_warn, Result.ok_bind, Trace.result_lift]
  cases Leaf.make op field value <;> rfl

private theorem result_members_of {drafts : List Draft}
    (each : ∀ d ∈ drafts, ∀ conjunction q, (member warnings conjunction d q).result =
      (d.piece conjunction).map fun p => q ++ .ofPieces conjunction [p]) (q : BoolQuery) :
    (members warnings conjunction drafts q).result =
      (Draft.pieces conjunction drafts).map (q ++ .ofPieces conjunction ·) := by
  induction drafts generalizing q with
  | nil => simp [members, Draft.pieces]
  | cons d rest ih =>
    have later := ih fun other present => each other (List.mem_cons_of_mem d present)
    have first := each d List.mem_cons_self conjunction q
    simp only [members, Draft.pieces, Trace.result_bind, first]
    cases d.piece conjunction with
    | error failure => rfl
    | ok p =>
      simp only [Result.map_ok, Result.ok_bind, later]
      cases Draft.pieces conjunction rest with
      | error failure => rfl
      | ok others =>
        simp only [Result.map_ok, Result.ok_bind, BoolQuery.append_assoc,
          ← BoolQuery.ofPieces_append, List.singleton_append]

theorem result_member (d : Draft) (conjunction : Conjunction) (q : BoolQuery) :
    (member warnings conjunction d q).result =
      (d.piece conjunction).map fun p => q ++ .ofPieces conjunction [p] := by
  induction d generalizing conjunction q with
  | leaf field operator value =>
    cases operator with
    | foreign other => rfl
    | known op =>
      simp only [member, Draft.piece, result_condition]
      cases Leaf.make op field value with
      | error failure => rfl
      | ok test => simp [BoolQuery.addLeaf_eq_append]
  | group inner drafts ih =>
    cases inner with
    | foreign other => rfl
    | known inner =>
      have nested : (members warnings inner drafts .empty).result = _ :=
        result_members_of ih .empty
      simp only [member, Draft.piece, Trace.result_bind, nested]
      cases Draft.pieces inner drafts with
      | error failure => rfl
      | ok found => simp [BoolQuery.addGroup_eq_append]

theorem result_members (drafts : List Draft) (q : BoolQuery) :
    (members warnings conjunction drafts q).result =
      (Draft.pieces conjunction drafts).map (q ++ .ofPieces conjunction ·) :=
  result_members_of (fun d _ => result_member d) q

end Lowering

/-- The query of a filter consists of the pieces of its members. -/
theorem Group.result_lower (warnings : Bool) (g : Group) :
    (g.lower warnings).result =
      (Draft.pieces g.conjunction (g.members.map Tree.toDraft)).map
        (.ofPieces g.conjunction) := by
  simp only [Group.lower, Lowering.group, Lowering.result_members, Tree.toDrafts_eq_map,
    BoolQuery.empty_append]

end SearchFilter
