import SearchFilter.Proofs.Lowering.Piece

namespace SearchFilter

/-- The way to the group with a number inside a group, or for anything but a group no further. -/
def wayInto (way : List Nat) (n : Nat) (isGroup : Bool) : List Nat :=
  if isGroup then way ++ [n] else way

/-- The number that the next group gets. -/
def nextNumber (n : Nat) (isGroup : Bool) : Nat :=
  if isGroup then n + 1 else n

namespace Draft

def isGroup : Draft → Bool
  | .leaf .. => false
  | .group .. => true

mutual

/-- The conditions in a draft, each with the way to its group. -/
def sites (way : List Nat) : Draft → List (List Nat × Draft)
  | .leaf field operator value => [(way, .leaf field operator value)]
  | .group _ members => sitesFrom way 0 members
termination_by structural d => d

/-- The conditions in members of a group of which the groups are counted from a number on. -/
def sitesFrom (way : List Nat) (n : Nat) : List Draft → List (List Nat × Draft)
  | [] => []
  | d :: rest =>
    d.sites (wayInto way n d.isGroup) ++ sitesFrom way (nextNumber n d.isGroup) rest
termination_by structural ds => ds

end

end Draft

namespace Clause

def isGroup : Clause → Bool
  | .leaf _ | .not _ => false
  | .bool .. => true

mutual

/-- The tests in a clause, each with the way to its query. -/
def sites (way : List Nat) : Clause → List (List Nat × Leaf)
  | .leaf t | .not t => [(way, t)]
  | .bool must should mustNot =>
    sitesFrom way 0 must ++ sitesFrom way (must.countP isGroup) should ++ mustNot.map (way, ·)
termination_by structural c => c

def sitesFrom (way : List Nat) (n : Nat) : List Clause → List (List Nat × Leaf)
  | [] => []
  | c :: rest =>
    c.sites (wayInto way n c.isGroup) ++ sitesFrom way (nextNumber n c.isGroup) rest
termination_by structural cs => cs

end

end Clause

/-- The tests in a query, each with the way to the query that it belongs to. -/
def BoolQuery.sites (way : List Nat) (q : BoolQuery) : List (List Nat × Leaf) :=
  q.toClause.sites way

namespace Piece

def isGroup : Piece → Bool
  | test .. => false
  | nested _ => true

def sites (way : List Nat) : Piece → List (List Nat × Leaf)
  | test _ t => [(way, t)]
  | nested q => q.sites way

/-- The tests in pieces of which the queries are counted from a number on. -/
def sitesFrom (way : List Nat) (n : Nat) : List Piece → List (List Nat × Leaf)
  | [] => []
  | p :: rest =>
    p.sites (wayInto way n p.isGroup) ++ sitesFrom way (nextNumber n p.isGroup) rest

end Piece

namespace BoolQuery

variable {way : List Nat} {n : Nat}

private theorem sitesFrom_required (pieces : List Piece) :
    (Clause.sitesFrom way n (pieces.filterMap Piece.required?) ++
      (pieces.filterMap Piece.excluded?).map (way, ·)).Perm (Piece.sitesFrom way n pieces) := by
  induction pieces generalizing n with
  | nil => exact .refl []
  | cons p rest ih =>
    cases p with
    | test negated t =>
      cases negated with
      | false => exact (ih (n := n)).cons (way, t)
      | true => exact List.perm_middle.trans ((ih (n := n)).cons (way, t))
    | nested q =>
      have later := (ih (n := n + 1)).append_left (q.sites (way ++ [n]))
      rw [← List.append_assoc] at later
      exact later

private theorem sitesFrom_alternative (pieces : List Piece) :
    Clause.sitesFrom way n (pieces.map Piece.alternative) = Piece.sitesFrom way n pieces := by
  induction pieces generalizing n with
  | nil => rfl
  | cons p rest ih =>
    cases p with
    | test negated t => cases negated <;> exact congrArg ((way, t) :: ·) (ih (n := n))
    | nested q => exact congrArg (q.sites (way ++ [n]) ++ ·) (ih (n := n + 1))

theorem sites_ofPieces (conjunction : Conjunction) (pieces : List Piece) :
    ((ofPieces conjunction pieces).sites way).Perm (Piece.sitesFrom way 0 pieces) := by
  cases conjunction with
  | and =>
    have none : Clause.sitesFrom way ((pieces.filterMap Piece.required?).countP Clause.isGroup) [] = [] :=
      rfl
    rw [sites, toClause, ofPieces, Clause.sites, none, List.append_nil]
    exact sitesFrom_required pieces
  | or =>
    rw [sites, toClause, ofPieces, Clause.sites, List.map_nil, List.append_nil]
    exact .of_eq (sitesFrom_alternative pieces)

end BoolQuery

namespace Draft

variable {conjunction : Conjunction} {way : List Nat} {n : Nat} {d : Draft} {p : Piece}

/-- A test on the same way as a condition, and the one that the operator of the condition makes. -/
def TestedBy (site : List Nat × Draft) (test : List Nat × Leaf) : Prop :=
  site.1 = test.1 ∧ ∃ field op value, site.2 = .leaf field (.known op) value ∧
    Leaf.make op field value = .ok test.2

theorem isGroup_of_piece (made : d.piece conjunction = .ok p) : p.isGroup = d.isGroup := by
  cases d with
  | leaf field operator value =>
    obtain ⟨op, t, rfl, -, rfl⟩ := piece_leaf_eq_ok_iff.mp made
    rfl
  | group inner members =>
    obtain ⟨own, found, rfl, -, rfl⟩ := piece_group_eq_ok_iff.mp made
    rfl

private theorem tested_of_each {drafts : List Draft} {found : List Piece} (way : List Nat) (n : Nat)
    (each : List.Forall₂ (fun d p => d.piece conjunction = .ok p ∧ ∀ way, ∃ tests,
      List.Forall₂ TestedBy (d.sites way) tests ∧ (p.sites way).Perm tests) drafts found) :
    ∃ tests, List.Forall₂ TestedBy (sitesFrom way n drafts) tests ∧
      (Piece.sitesFrom way n found).Perm tests := by
  induction each generalizing n with
  | nil => exact ⟨[], .nil, .refl []⟩
  | @cons d p rest others head _ ih =>
    obtain ⟨made, own⟩ := head
    obtain ⟨first, testedFirst, permFirst⟩ := own (wayInto way n d.isGroup)
    obtain ⟨later, testedLater, permLater⟩ := ih (n := nextNumber n d.isGroup)
    refine ⟨first ++ later, List.rel_append testedFirst testedLater, ?_⟩
    rw [Piece.sitesFrom, isGroup_of_piece made]
    exact permFirst.append permLater

/-- The tests in the piece of a member are those of the conditions in it. -/
theorem tested_of_piece (made : d.piece conjunction = .ok p) (way : List Nat) :
    ∃ tests, List.Forall₂ TestedBy (d.sites way) tests ∧ (p.sites way).Perm tests := by
  induction d generalizing conjunction p way with
  | leaf field operator value =>
    obtain ⟨op, t, rfl, found, rfl⟩ := piece_leaf_eq_ok_iff.mp made
    exact ⟨[(way, t)], .cons ⟨rfl, field, op, value, rfl, found⟩ .nil, .refl _⟩
  | group inner members ih =>
    obtain ⟨own, found, rfl, all, rfl⟩ := piece_group_eq_ok_iff.mp made
    have each := (List.forall₂_and_left members found).mpr ⟨ih, pieces_eq_ok_iff.mp all⟩
    have tests := tested_of_each way 0 (each.imp fun d p ⟨tested, made⟩ => ⟨made, tested made⟩)
    obtain ⟨tests, tested, perm⟩ := tests
    exact ⟨tests, tested, (BoolQuery.sites_ofPieces own found).trans perm⟩

theorem tested_of_pieces {drafts : List Draft} {found : List Piece}
    (made : pieces conjunction drafts = .ok found) (way : List Nat) (n : Nat) :
    ∃ tests, List.Forall₂ TestedBy (sitesFrom way n drafts) tests ∧
      (Piece.sitesFrom way n found).Perm tests :=
  tested_of_each way n ((pieces_eq_ok_iff.mp made).imp fun _ _ own => ⟨own, tested_of_piece own⟩)

end Draft

end SearchFilter
