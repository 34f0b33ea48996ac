import SearchFilter.Proofs.Condition.Shape
import SearchFilter.Proofs.Lowering.Piece
import SearchFilter.Proofs.NaturalKey.Pair

/-!
Which filters cannot be lowered. Of accepted conditions only a range can fail, and only because its two
values cannot be put in natural order. Main statement: a filter of accepted conditions is lowered
exactly if every range in it has values that can be ordered.
-/

namespace SearchFilter

/-- A range whose two values can be put in order; other conditions ask for no order. -/
def Condition.Orderable (c : Condition) : Prop :=
  ∀ low high, c.operator = .between → c.value = .tuple [low, high] →
    low.HasKey ∧ high.HasKey ∧ low.Comparable high

namespace Leaf

theorem within_isOk_iff {field value low high : Value} (key : field.isKey = true)
    (items : value.items? = some [low, high]) : (∃ test, within field value = .ok test) ↔
      low.HasKey ∧ high.HasKey ∧ low.Comparable high := by
  rw [← NaturalKey.sortValues_pair_isOk_iff]
  cases sorted : NaturalKey.sortValues [low, high] with
  | error failure => simp [within, items, sorted]
  | ok values =>
    rcases NaturalKey.sortValues_pair sorted with rfl | rfl <;>
      simp [within, items, sorted, keyed, key]

/-- An accepted condition has a test unless it is a range that cannot be ordered. -/
theorem make_isOk_iff {c : Condition} (shaped : c.WellShaped) :
    (∃ test, make c.operator (.text c.field) c.value = .ok test) ↔ c.Orderable := by
  obtain ⟨field, op, value⟩ := c
  have fits := shaped.fits
  cases op with
  | between =>
    obtain ⟨low, high, rfl, _, _⟩ := fits
    have key : (Value.text field).isKey = true := rfl
    have items : (Value.tuple [low, high]).items? = some [low, high] := rfl
    simp only [make, within_isOk_iff key items, Condition.Orderable]
    constructor
    · rintro orderable _ _ - same
      cases same
      exact orderable
    · exact fun orderable => orderable low high trivial rfl
  | isIn | notIn =>
    obtain ⟨items, rfl, _, _⟩ := fits
    simp [make, anyOf, Value.items?, keyed, Value.isKey, Condition.Orderable]
  | _ => simp [make, keyed, Value.isKey, Condition.Orderable]

end Leaf

namespace Tree

private theorem pieces_isOk_iff {trees : List Tree} {conjunction : Conjunction} :
    (∃ pieces, Draft.pieces conjunction (trees.map toDraft) = .ok pieces) ↔
      ∀ t ∈ trees, ∃ p, t.toDraft.piece conjunction = .ok p := by
  induction trees with
  | nil => simp [Draft.pieces]
  | cons t rest ih =>
    simp only [List.map_cons, Draft.pieces, Result.bind_eq_ok_iff, List.forall_mem_cons, ← ih]
    constructor
    · rintro ⟨_, p, first, pieces, later, _⟩
      exact ⟨⟨p, first⟩, pieces, later⟩
    · rintro ⟨⟨p, first⟩, pieces, later⟩
      exact ⟨p :: pieces, p, first, pieces, later, rfl⟩

theorem members_isOk_iff {trees : List Tree} {conjunction : Conjunction}
    (each : ∀ t ∈ trees, ((∃ p, t.toDraft.piece conjunction = .ok p) ↔
      ∀ c ∈ t.conditions, c.Orderable)) :
    (∃ pieces, Draft.pieces conjunction (trees.map toDraft) = .ok pieces) ↔
      ∀ c ∈ conditionsOf trees, c.Orderable := by
  rw [pieces_isOk_iff, forall_conditionsOf]
  exact forall₂_congr each

/-- A tree of accepted conditions has a piece exactly if each of its ranges can be ordered. -/
theorem piece_isOk_iff {t : Tree} {conjunction : Conjunction}
    (accepted : ∀ c ∈ t.conditions, c.Accepted) :
    (∃ p, t.toDraft.piece conjunction = .ok p) ↔ ∀ c ∈ t.conditions, c.Orderable := by
  induction t generalizing conjunction with
  | leaf c =>
    have shaped := Condition.accepted_iff_wellShaped.mp (forall_conditions_leaf.mp accepted)
    rw [toDraft, Draft.piece, Result.map_isOk_iff, Leaf.make_isOk_iff shaped,
      forall_conditions_leaf]
  | group inner members ih =>
    have each := forall_conditionsOf.mp accepted
    rw [toDraft, Draft.piece, Result.map_isOk_iff, toDrafts_eq_map, conditions]
    exact members_isOk_iff fun t member => ih t member (each t member)

end Tree

/-- A filter of accepted conditions is lowered exactly if every range in it has two values with natural
keys that do not begin with numbers in conflict. Nothing else in it can fail. -/
theorem Group.lower_isOk_iff {g : Group} (accepted : ∀ c ∈ g.conditions, c.Accepted)
    (warnings : Bool) :
    (∃ q, (g.lower warnings).result = .ok q) ↔ ∀ c ∈ g.conditions, c.Orderable := by
  have each := Tree.forall_conditionsOf.mp accepted
  rw [Group.result_lower, Result.map_isOk_iff]
  exact Tree.members_isOk_iff fun t member => Tree.piece_isOk_iff (each t member)

/-- A range between two numerals, given in descending order, is lowered. -/
theorem Group.lower_isOk_of_numerals :
    (∃ q, (Group.lower true ⟨.and, [.leaf ⟨"size", .between, .tuple [.text "x10", .text "x9"]⟩]⟩).result
      = .ok q) ↔
      ∀ c ∈ Group.conditions
        ⟨.and, [.leaf ⟨"size", .between, .tuple [.text "x10", .text "x9"]⟩]⟩, c.Orderable :=
  Group.lower_isOk_iff (by
    rintro c present
    cases List.mem_singleton.mp present
    exact ⟨.text "size", .operator .between, .list [.text "x10", .text "x9"], rfl⟩) true

/-- A range with a digit mark that stands alone is accepted and cannot be lowered. -/
theorem Group.lower_refuses_lone_digit_mark :
    ¬ ∀ g : Group, (∀ c ∈ g.conditions, c.Accepted) → ∃ q, (g.lower true).result = .ok q := by
  intro always
  obtain ⟨q, lowered⟩ :=
    always ⟨.and, [.leaf ⟨"size", .between, .tuple [.text "5", .text "²"]⟩]⟩ (by
      rintro c present
      cases List.mem_singleton.mp present
      exact ⟨.text "size", .operator .between, .list [.text "5", .text "²"], rfl⟩)
  cases lowered

end SearchFilter
