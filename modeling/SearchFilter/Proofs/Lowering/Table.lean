import SearchFilter.Proofs.Lowering.Site

/-!
The query of a filter by a table. Where all members are to hold, tests and nested queries are sent in
one list and the tests of negated conditions in another; where any may hold, each member is sent as
one entry. Main statement: at every level the query that is sent is that of the table, and its
tests are those of the conditions, one for one and each in the query of its group.
-/

namespace SearchFilter

namespace Piece

/-- What is sent of a piece among the clauses that must match. -/
def must? : Piece → Option Value
  | test false t => some t.toDocument
  | test true _ => none
  | nested q => some (Leaf.single "bool" q.toDocument)

/-- What is sent of a piece among the clauses that must not match. -/
def mustNot? : Piece → Option Value
  | test true t => some t.toDocument
  | test false _ | nested _ => none

/-- What is sent of a piece among the clauses of which one should match. -/
def should : Piece → Value
  | test false t => t.toDocument
  | test true t => Leaf.single "bool" (Leaf.single "must_not" t.toDocument)
  | nested q => Leaf.single "bool" q.toDocument

end Piece

/-- The query of a group as it is sent, by the pieces of its members in order. -/
def Conjunction.table : Conjunction → List Piece → Value
  | .and, pieces => .ofFields ([("must", .list (pieces.filterMap Piece.must?))] ++
      BoolQuery.optional "must_not" (pieces.filterMap Piece.mustNot?))
  | .or, pieces => .ofFields ([("must", .list [])] ++
      BoolQuery.optional "should" (pieces.map Piece.should))

/-- What the members of groups bring to the queries of their groups: a condition the test that its
operator makes, and a group the query that it is lowered to by itself, which is that of the table
for what its own members bring. -/
inductive Draft.Brings (warnings : Bool) : Draft → Piece → Prop
  | test {field value : Value} {op : Operator} {t : Leaf} (made : Leaf.make op field value = .ok t) :
      Brings warnings (.leaf field (.known op) value) (.test op.isNegated t)
  | query {conjunction : Conjunction} {members : List Draft} {q : BoolQuery} {pieces : List Piece}
      (lowered : (Lowering.group warnings (.known conjunction) members).result = .ok q)
      (each : List.Forall₂ (Brings warnings) members pieces)
      (sent : q.toDocument = conjunction.table pieces) :
      Brings warnings (.group (.known conjunction) members) (.nested q)

namespace BoolQuery

private theorem map_required (pieces : List Piece) :
    (pieces.filterMap Piece.required?).map Clause.toDocument = pieces.filterMap Piece.must? := by
  have each : ∀ p : Piece, p.required?.map Clause.toDocument = p.must? := by
    intro p
    cases p with
    | test negated t => cases negated <;> rfl
    | nested q => rfl
  simp only [List.map_filterMap, each]

private theorem map_excluded (pieces : List Piece) :
    (pieces.filterMap Piece.excluded?).map Leaf.toDocument = pieces.filterMap Piece.mustNot? := by
  have each : ∀ p : Piece, p.excluded?.map Leaf.toDocument = p.mustNot? := by
    intro p
    cases p with
    | test negated t => cases negated <;> rfl
    | nested q => rfl
  simp only [List.map_filterMap, each]

private theorem map_alternative (pieces : List Piece) :
    (pieces.map Piece.alternative).map Clause.toDocument = pieces.map Piece.should := by
  have each : ∀ p : Piece, p.alternative.toDocument = p.should := by
    intro p
    cases p with
    | test negated t => cases negated <;> rfl
    | nested q => rfl
  simp only [List.map_map, Function.comp_def, each]

/-- The query of pieces is sent as the table says. -/
theorem toDocument_ofPieces (conjunction : Conjunction) (pieces : List Piece) :
    (ofPieces conjunction pieces).toDocument = conjunction.table pieces := by
  rw [toDocument, documentOf, Clause.toDocuments_eq_map, Clause.toDocuments_eq_map]
  cases conjunction with
  | and =>
    have left_out : optional "should" [] = [] := rfl
    rw [ofPieces, map_required, map_excluded, List.map_nil, left_out, List.append_nil]
    rfl
  | or =>
    have left_out : optional "must_not" [] = [] := rfl
    rw [ofPieces, map_alternative, List.map_nil, List.map_nil, left_out, List.append_nil]
    rfl

end BoolQuery

namespace Draft

variable {warnings : Bool} {conjunction : Conjunction} {p : Piece} {drafts : List Draft}
  {pieces found : List Piece}

theorem result_group (warnings : Bool) (conjunction : Conjunction) (drafts : List Draft) :
    (Lowering.group warnings (.known conjunction) drafts).result =
      (Draft.pieces conjunction drafts).map (.ofPieces conjunction) := by
  simp only [Lowering.group, Lowering.result_members, BoolQuery.empty_append]

theorem brings_of_piece {d : Draft} (made : d.piece conjunction = .ok p) : d.Brings warnings p := by
  induction d generalizing conjunction p with
  | leaf field operator value =>
    obtain ⟨op, t, rfl, found, rfl⟩ := piece_leaf_eq_ok_iff.mp made
    exact .test found
  | group inner members ih =>
    obtain ⟨own, found, rfl, all, rfl⟩ := piece_group_eq_ok_iff.mp made
    have each := (List.forall₂_and_left members found).mpr ⟨ih, pieces_eq_ok_iff.mp all⟩
    have brought : List.Forall₂ (Brings warnings) members found := by
      apply each.imp
      rintro d p ⟨brings, own⟩
      exact brings own
    have lowered : (Lowering.group warnings (.known own) members).result =
        .ok (.ofPieces own found) := by
      rw [result_group, all, Result.map_ok]
    exact .query lowered brought (BoolQuery.toDocument_ofPieces own found)

end Draft

namespace Lowering

/-- The query that a group is lowered to is sent as the table says, with what its members bring in
order, and the same holds of the groups in it. Its tests are those of the conditions, one for one and
each in the query of its group. -/
theorem group_tabulates {warnings : Bool} {conjunction : Slot Conjunction} {members : List Draft}
    {q : BoolQuery} (lowered : (group warnings conjunction members).result = .ok q) :
    ∃ c pieces, conjunction = .known c ∧ List.Forall₂ (Draft.Brings warnings) members pieces ∧
      q.toDocument = c.table pieces ∧
      ∃ tests, List.Forall₂ Draft.TestedBy (Draft.sitesFrom [] 0 members) tests ∧
        (q.sites []).Perm tests := by
  cases conjunction with
  | foreign other => cases lowered
  | known c =>
    rw [Draft.result_group] at lowered
    obtain ⟨pieces, found, rfl⟩ := Result.map_eq_ok_iff.mp lowered
    have brought : List.Forall₂ (Draft.Brings warnings) members pieces :=
      (Draft.pieces_eq_ok_iff.mp found).imp fun _ _ => Draft.brings_of_piece
    have sent := BoolQuery.toDocument_ofPieces c pieces
    obtain ⟨tests, tested, same⟩ := Draft.tested_of_pieces found [] 0
    exact ⟨c, pieces, rfl, brought, sent, tests, tested, (BoolQuery.sites_ofPieces c pieces).trans same⟩

/-- A negated condition, a group that excludes a test in its turn, and a group without members. -/
def layered : List Draft :=
  [.leaf (.text "owner") (.known .ne) (.text "ann"),
    .group (.known .and) [.leaf (.text "closed") (.known .isNull) .null,
      .leaf (.text "size") (.known .between) (.tuple [.int 10, .int 9])],
    .group (.known .or) []]

/-- The query of these members where any may hold. -/
def layeredQuery : BoolQuery :=
  ⟨[], [.not (.term (.text "owner") (.text "ann")),
    .bool [.leaf (.range (.text "size") [(.gt, .int 9), (.lt, .int 10)])] []
      [.hasValue (.text "closed")],
    .bool [] [] []], []⟩

theorem group_tabulates_layered :
    (group false (.known .or) layered).result = .ok layeredQuery ∧
    ∃ c pieces, Slot.known Conjunction.or = .known c ∧
      List.Forall₂ (Draft.Brings false) layered pieces ∧
      layeredQuery.toDocument = c.table pieces ∧
      ∃ tests, List.Forall₂ Draft.TestedBy (Draft.sitesFrom [] 0 layered) tests ∧
        (layeredQuery.sites []).Perm tests :=
  ⟨rfl, group_tabulates rfl⟩

end Lowering

end SearchFilter
