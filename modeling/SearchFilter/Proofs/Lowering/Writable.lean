import SearchFilter.Proofs.Lowering.Refusal
import SearchFilter.Proofs.Value.Writable

namespace SearchFilter

namespace Leaf

private theorem isWritable_single {key : String} {value : Value} :
    (single key value).isWritable = value.isWritable := by
  simp [single, Value.isWritable, Value.entriesWritable, Value.entryWritable]

private theorem isWritable_under {name : String} {value : Value} :
    (Value.map [(.text name, value)]).isWritable = value.isWritable :=
  isWritable_single

theorem isWritable_make {c : Condition} {test : Leaf} (shaped : c.WellShaped)
    (made : make c.operator (.text c.field) c.value = .ok test) :
    test.toDocument.isWritable = c.value.isWritable := by
  obtain ⟨field, op, value⟩ := c
  have fits := shaped.fits
  have key : (Value.text field).isKey = true := rfl
  cases op with
  | eq | ne =>
    simp only [make, keyed, key, if_true] at made
    cases made
    simp only [toDocument, isWritable_single, isWritable_under]
  | gt | ge | lt | le =>
    simp only [make, keyed, key, if_true] at made
    cases made
    simp only [toDocument, isWritable_single, isWritable_under, List.map_cons, List.map_nil]
  | isNull | isNotNull =>
    cases fits
    cases made
    rfl
  | isIn | notIn =>
    obtain ⟨items, rfl, _, _⟩ := fits
    simp only [make, anyOf, Value.items?, keyed, key, if_true] at made
    cases made
    rw [toDocument, isWritable_single, isWritable_under, Value.isWritable, Value.isWritable]
  | between =>
    obtain ⟨low, high, rfl, _, _⟩ := fits
    cases sorted : NaturalKey.sortValues [low, high] with
    | error failure => simp [make, within, Value.items?, sorted] at made
    | ok values =>
      rcases NaturalKey.sortValues_pair sorted with rfl | rfl
      · simp only [make, within, Value.items?, sorted, keyed, key, if_true] at made
        cases made
        simp [toDocument, isWritable_single, Value.isWritable, Value.entriesWritable, Value.entryWritable,
          Value.allWritable]
      · simp only [make, within, Value.items?, sorted, keyed, key, if_true] at made
        cases made
        simp [toDocument, isWritable_single, Value.isWritable, Value.entriesWritable, Value.entryWritable,
          Value.allWritable, Bool.and_comm]
  | startsWith =>
    simp only [make, keyed, key, if_true] at made
    cases made
    simp only [toDocument, isWritable_single, isWritable_under]
  | endsWith | contains =>
    obtain ⟨name, text⟩ := Option.isSome_iff_exists.mp fits
    simp only [make, keyed, key, if_true] at made
    cases made
    rw [Value.isWritable_of_asText? text]
    rfl

end Leaf

/-- Whether the document of what a member is lowered to can be written out. -/
def Piece.isWritable : Piece → Bool
  | test _ t => t.toDocument.isWritable
  | nested q => q.toDocument.isWritable

theorem Piece.isWritable_alternative (p : Piece) : p.alternative.toDocument.isWritable = p.isWritable := by
  cases p with
  | test negated t =>
    cases negated with
    | false => rfl
    | true =>
      rw [alternative, Clause.toDocument, Leaf.isWritable_single, Leaf.isWritable_single]
      rfl
  | nested q =>
    rw [alternative, BoolQuery.toClause, Clause.toDocument, Leaf.isWritable_single]
    rfl

namespace BoolQuery

private theorem forall_mem_optional {name : String} {items : List Value} :
    (∀ field ∈ optional name items, field.2.isWritable = true) ↔ Value.allWritable items = true := by
  cases items with
  | nil => simp [optional, Value.allWritable]
  | cons item rest => simp [optional, Value.isWritable]

theorem isWritable_documentOf {must should mustNot : List Value} :
    (documentOf must should mustNot).isWritable = true ↔
      (∀ v ∈ must, v.isWritable = true) ∧ (∀ v ∈ mustNot, v.isWritable = true) ∧
        ∀ v ∈ should, v.isWritable = true := by
  simp only [documentOf, Value.isWritable_ofFields, List.forall_mem_append, List.forall_mem_singleton,
    forall_mem_optional, Value.isWritable, Value.allWritable_iff, and_assoc]

theorem isWritable_ofPieces {conjunction : Conjunction} {pieces : List Piece} :
    (ofPieces conjunction pieces).toDocument.isWritable = true ↔
      ∀ p ∈ pieces, p.isWritable = true := by
  rw [toDocument, isWritable_documentOf]
  cases conjunction with
  | or =>
    simp [ofPieces, Clause.toDocuments_eq_map, Piece.isWritable_alternative]
  | and =>
    simp only [ofPieces, Clause.toDocuments_eq_map, List.map_nil, List.forall_mem_map, List.mem_filterMap,
      List.not_mem_nil, false_imp_iff, implies_true, and_true]
    constructor
    · rintro ⟨required, excluded⟩ p member
      cases p with
      | test negated t =>
        cases negated with
        | false => exact required _ ⟨_, member, rfl⟩
        | true => exact excluded _ ⟨_, member, rfl⟩
      | nested q =>
        have whole := required _ ⟨_, member, rfl⟩
        rwa [toClause, Clause.toDocument, Leaf.isWritable_single] at whole
    · intro each
      refine ⟨?_, ?_⟩
      · rintro clause ⟨p, member, same⟩
        have whole := each p member
        rw [← p.isWritable_alternative] at whole
        cases p with
        | test negated t => cases negated <;> cases same; exact whole
        | nested q =>
          cases same
          exact whole
      · rintro t ⟨p, member, same⟩
        have whole := each p member
        cases p with
        | test negated t => cases negated <;> cases same; exact whole
        | nested q => cases same

end BoolQuery

namespace Tree

private theorem isWritable_pieces {trees : List Tree} {conjunction : Conjunction} {pieces : List Piece}
    (each : ∀ t ∈ trees, ∀ p, t.toDraft.piece conjunction = .ok p →
      (p.isWritable = true ↔ ∀ c ∈ t.conditions, c.value.isWritable = true))
    (made : Draft.pieces conjunction (trees.map toDraft) = .ok pieces) :
    (∀ p ∈ pieces, p.isWritable = true) ↔ ∀ c ∈ conditionsOf trees, c.value.isWritable = true := by
  rw [forall_conditionsOf]
  induction trees generalizing pieces with
  | nil =>
    cases made
    simp
  | cons t rest ih =>
    obtain ⟨p, first, later⟩ := Result.bind_eq_ok_iff.mp made
    obtain ⟨others, tail, done⟩ := Result.bind_eq_ok_iff.mp later
    cases done
    obtain ⟨head, behind⟩ := List.forall_mem_cons.mp each
    rw [List.forall_mem_cons, List.forall_mem_cons, head p first, ih behind tail]

private theorem isWritable_piece {t : Tree} {conjunction : Conjunction} {p : Piece}
    (accepted : ∀ c ∈ t.conditions, c.Accepted) (made : t.toDraft.piece conjunction = .ok p) :
    p.isWritable = true ↔ ∀ c ∈ t.conditions, c.value.isWritable = true := by
  induction t generalizing conjunction p with
  | leaf c =>
    have shaped := Condition.accepted_iff_wellShaped.mp (forall_conditions_leaf.mp accepted)
    obtain ⟨test, tested, rfl⟩ := Result.map_eq_ok_iff.mp made
    rw [forall_conditions_leaf, Piece.isWritable, Leaf.isWritable_make shaped tested]
  | group inner members ih =>
    have each := forall_conditionsOf.mp accepted
    rw [toDraft, Draft.piece, toDrafts_eq_map] at made
    obtain ⟨pieces, inside, rfl⟩ := Result.map_eq_ok_iff.mp made
    rw [Piece.isWritable, BoolQuery.isWritable_ofPieces, conditions]
    exact isWritable_pieces (fun t member p => ih t member (each t member)) inside

end Tree

/-- The query of a filter of accepted conditions can be written out exactly if the values of all of them
can. -/
theorem Group.isWritable_lower {g : Group} {warnings : Bool} {q : BoolQuery}
    (accepted : ∀ c ∈ g.conditions, c.Accepted) (lowered : (g.lower warnings).result = .ok q) :
    q.toDocument.isWritable = true ↔ ∀ c ∈ g.conditions, c.value.isWritable = true := by
  have each := Tree.forall_conditionsOf.mp accepted
  rw [Group.result_lower] at lowered
  obtain ⟨pieces, made, rfl⟩ := Result.map_eq_ok_iff.mp lowered
  rw [BoolQuery.isWritable_ofPieces]
  exact Tree.isWritable_pieces (fun t member _ => Tree.isWritable_piece (each t member)) made

end SearchFilter
