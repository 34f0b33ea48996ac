import SearchFilter.Proofs.Lowering.Piece
import SearchFilter.Proofs.Store.Frame

namespace SearchFilter.Store

variable {α : Type} {s changed : Store} {id : GroupId} {g : Group} {cell : Cell} {members : List Member}
  {trees : List Tree} {warnings : Bool} {conjunction : Conjunction}

/-- What a visit of a group gives when the visit follows the groups that are members, at most `fuel`
groups deep. -/
def follow (stuck : α) (visit : (GroupId → α) → Cell → α) (s : Store) : Nat → GroupId → α
  | 0, _ => stuck
  | fuel + 1, id => match s.cell? id with
    | none => stuck
    | some cell => visit (follow stuck visit s fuel) cell

/-- Lowers a member into the query of its group, a group by what is known of it. -/
def lowerMember (warnings : Bool) (conjunction : Conjunction)
    (lower : GroupId → Trace LogRecord BoolQuery) (q : BoolQuery) : Member → Trace LogRecord BoolQuery
  | .leaf c => Lowering.condition warnings conjunction (.text c.field) (.known c.operator) c.value q
  | .group id => do
    let nested ← lower id
    pure (q.addGroup conjunction nested)

def lowerCell (warnings : Bool) (lower : GroupId → Trace LogRecord BoolQuery) (cell : Cell) :
    Trace LogRecord BoolQuery :=
  cell.members.foldlM (lowerMember warnings cell.conjunction lower) .empty

/-- The bool query of a group of the store, where no more than `depth` groups may be inside one
another. -/
def lowerWithin (s : Store) (warnings : Bool) (depth : Nat) (id : GroupId) : Trace LogRecord BoolQuery :=
  s.follow (.fail .tooDeep) (lowerCell warnings) depth id

/-- The bool query of a group of the store. Without a group inside itself the depth suffices. -/
def lower (s : Store) (warnings : Bool) (id : GroupId) : Trace LogRecord BoolQuery :=
  s.lowerWithin warnings (s.cells.length + 1) id

def memberDocument? (document? : GroupId → Option Value) : Member → Option Value
  | .leaf c => some c.toDocument
  | .group id => document? id

def cellDocument? (document? : GroupId → Option Value) (cell : Cell) : Option Value :=
  (cell.members.mapM (memberDocument? document?)).map fun documents =>
    .ofFields [("conjunction", .text cell.conjunction.name), ("conditions", .list documents)]

/-- The document of a group of the store, where no more than `depth` groups may be inside one another. -/
def documentWithin? (s : Store) (depth : Nat) (id : GroupId) : Option Value :=
  s.follow none cellDocument? depth id

/-- The document of a group of the store. -/
def document? (s : Store) (id : GroupId) : Option Value :=
  s.documentWithin? (s.cells.length + 1) id

/-- A member stands for a tree, if what is known of groups is what their trees give. -/
inductive StandsFor (known : GroupId → α) (result : Group → α) : Member → Tree → Prop
  | leaf (c : Condition) : StandsFor known result (.leaf c) (.leaf c)
  | group {id : GroupId} {g : Group} (same : known id = result g) :
      StandsFor known result (.group id) g.toTree

/-- If a visit of a group gives what its tree gives, provided that this is so of its members, then
following members gives what the tree gives. -/
theorem follow_of_unfoldWithin {stuck : α} {visit : (GroupId → α) → Cell → α} (result : Group → α)
    (step : ∀ known cell trees, List.Forall₂ (StandsFor known result) cell.members trees →
      visit known cell = result ⟨cell.conjunction, trees⟩)
    {fuel : Nat} (unfolded : s.unfoldWithin fuel id = some g) :
    s.follow stuck visit fuel id = result g := by
  induction fuel generalizing id g with
  | zero => cases unfolded
  | succ fuel ih =>
    obtain ⟨cell, found, unfolded⟩ := Option.bind_eq_some_iff.mp unfolded
    obtain ⟨trees, each, rfl⟩ := Option.map_eq_some_iff.mp unfolded
    rw [follow, found]
    refine step _ cell trees (forall₂_imp_of_mem (fun m _ t _ shown => ?_) (mapM_eq_some_iff.mp each))
    cases m with
    | leaf c =>
      cases shown
      exact .leaf c
    | group inner =>
      obtain ⟨h, inside, rfl⟩ := Option.map_eq_some_iff.mp shown
      exact .group (ih inside)

private theorem lowerMembers_eq {known : GroupId → Trace LogRecord BoolQuery}
    (each : List.Forall₂ (StandsFor known (Group.lower warnings)) members trees) (q : BoolQuery) :
    members.foldlM (lowerMember warnings conjunction known) q =
      Lowering.members warnings conjunction (Tree.toDrafts trees) q := by
  induction each generalizing q with
  | nil => rfl
  | cons head _ ih =>
    rw [List.foldlM_cons]
    cases head with
    | leaf c => simp only [ih]; rfl
    | group same =>
      simp only [ih, lowerMember, same]
      rfl

theorem lower_of_tree? (known : s.tree? id = some g) : s.lower warnings id = g.lower warnings :=
  follow_of_unfoldWithin (Group.lower warnings) (fun _ _ _ each => lowerMembers_eq each .empty) known

private theorem memberDocuments?_eq {known : GroupId → Option Value}
    (each : List.Forall₂ (StandsFor known (fun g => some g.toDocument)) members trees) :
    members.mapM (memberDocument? known) = some (Tree.toDocuments trees) := by
  induction each with
  | nil => rfl
  | cons head _ ih =>
    rw [List.mapM_cons, ih]
    cases head with
    | leaf c => rfl
    | group same =>
      simp only [memberDocument?, same]
      rfl

theorem document?_of_tree? (known : s.tree? id = some g) : s.document? id = some g.toDocument := by
  refine follow_of_unfoldWithin (fun g => some g.toDocument) (fun _ _ _ each => ?_) known
  rw [cellDocument?, memberDocuments?_eq each]
  rfl

/-- What a member contributes to the query of its group: the test of a condition, or the query of a
group, wherever the group occurs. -/
inductive PieceOf (s : Store) (warnings : Bool) : Member → Piece → Prop
  | leaf {c : Condition} {test : Leaf} (made : Leaf.make c.operator (.text c.field) c.value = .ok test) :
      s.PieceOf warnings (.leaf c) (.test c.operator.isNegated test)
  | group {id : GroupId} {nested : BoolQuery} (lowered : (s.lower warnings id).result = .ok nested) :
      s.PieceOf warnings (.group id) (.nested nested)

private theorem pieceOf_of_denotes {m : Member} {t : Tree} {p : Piece} (shown : s.Denotes m t)
    (found : t.toDraft.piece conjunction = .ok p) : s.PieceOf warnings m p := by
  cases m with
  | leaf c =>
    rw [denotes_leaf shown, Tree.toDraft, Draft.piece] at found
    obtain ⟨test, made, rfl⟩ := Result.map_eq_ok_iff.mp found
    exact .leaf made
  | group id =>
    obtain ⟨g, rfl⟩ := denotes_group shown
    obtain ⟨inner, pieces, rfl⟩ := Result.map_eq_ok_iff.mp found
    refine .group ?_
    rw [lower_of_tree? (tree?_eq_some_iff.mpr shown), Group.result_lower, ← Tree.toDrafts_eq_map,
      pieces, Result.map_ok]

/-- The query of a group has one piece for each member, in order, and equal ones for all occurrences
of one group. -/
theorem pieces_of_lower {q : BoolQuery} (found : s.cell? id = some cell) (known : s.tree? id = some g)
    (lowered : (s.lower warnings id).result = .ok q) :
    ∃ pieces, q = .ofPieces cell.conjunction pieces ∧
      List.Forall₂ (s.PieceOf warnings) cell.members pieces := by
  obtain ⟨_, again, same, each⟩ := denotes_group_iff.mp (tree?_eq_some_iff.mp known)
  cases found.symm.trans again
  rw [lower_of_tree? known, Group.result_lower, ← same] at lowered
  obtain ⟨pieces, made, rfl⟩ := Result.map_eq_ok_iff.mp lowered
  refine ⟨pieces, rfl, ?_⟩
  rw [Draft.pieces_eq_ok_iff, List.forall₂_map_left_iff] at made
  refine List.forall₂_iff_get.mpr ⟨each.length_eq.trans made.length_eq, fun i bound _ => ?_⟩
  exact pieceOf_of_denotes (each.get bound (each.length_eq ▸ bound)) (made.get _ _)

/-- A visit of a group depends on nothing but the group and what is known of the groups in it. -/
def Confined (visit : (GroupId → α) → Cell → α) : Prop :=
  ∀ known other cell, (∀ inner, .group inner ∈ cell.members → known inner = other inner) →
    visit known cell = visit other cell

/-- Following members gives the same in two stores with the same groups at a place and inside it. -/
theorem AgreeBelow.follow_eq {stuck : α} {visit : (GroupId → α) → Cell → α} (confined : Confined visit)
    (agree : s.AgreeBelow changed id) (depth : Nat) :
    changed.follow stuck visit depth id = s.follow stuck visit depth id := by
  induction depth generalizing id with
  | zero => rfl
  | succ depth ih =>
    rw [follow, follow, agree id .refl]
    cases found : s.cell? id with
    | none => rfl
    | some cell =>
      exact confined _ _ cell fun inner member => ih (agree.member ⟨cell, found, member⟩)

theorem confined_lowerCell : Confined (lowerCell warnings) := by
  intro known other cell same
  have step : ∀ m ∈ cell.members, ∀ q, lowerMember warnings cell.conjunction known q m =
      lowerMember warnings cell.conjunction other q m := by
    intro m member q
    cases m with
    | leaf c => rfl
    | group inner => rw [lowerMember, lowerMember, same inner member]
  unfold lowerCell
  generalize BoolQuery.empty = q
  generalize cell.members = members at step
  induction members generalizing q with
  | nil => rfl
  | cons m rest ih =>
    obtain ⟨first, later⟩ := List.forall_mem_cons.mp step
    simp only [List.foldlM_cons, first, fun q => ih q later]

theorem confined_cellDocument? : Confined cellDocument? := by
  intro known other cell same
  have step : ∀ m ∈ cell.members, memberDocument? known m = memberDocument? other m := by
    intro m member
    cases m with
    | leaf c => rfl
    | group inner => exact same inner member
  unfold cellDocument?
  generalize cell.members = members at step
  congr 1
  induction members with
  | nil => rfl
  | cons m rest ih =>
    obtain ⟨first, later⟩ := List.forall_mem_cons.mp step
    rw [List.mapM_cons, List.mapM_cons, first, ih later]

end SearchFilter.Store
