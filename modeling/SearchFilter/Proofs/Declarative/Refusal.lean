import SearchFilter.Proofs.Checked
import SearchFilter.Proofs.Condition.Refusal
import SearchFilter.Proofs.Declarative.Directive

namespace SearchFilter

namespace Failure

/-- An error of the library's own. -/
def Own (failure : Failure) : Prop :=
  failure.kind?.isSome = true

/-- An error that escapes: it is not one of the library's own, and not a file that is missing. -/
def Escapes (failure : Failure) : Prop :=
  failure.kind? = none ∧ ∀ subject file, failure ≠ .noFile subject file

end Failure

/-- An error of the library's own, if the values in its message can be written out, and else one that
escapes. -/
def Failure.Tells (told : Bool) (failure : Failure) : Prop :=
  if told then failure.Own else failure.Escapes

namespace Failure

variable {failure : Failure} {told : Bool}

theorem Tells.own (tells : failure.Tells told) (can : told = true) : failure.Own := by
  rwa [Tells, if_pos can] at tells

theorem Tells.escapes (tells : failure.Tells told) (cannot : told = false) : failure.Escapes := by
  rwa [Tells, if_neg (by simp [cannot])] at tells

theorem tells_showing {values : List Value} (own : failure.Own) :
    (showing values failure).Tells (values.all Value.isWritable) := by
  unfold showing
  cases values.all Value.isWritable with
  | true => exact own
  | false => exact ⟨rfl, nofun⟩

end Failure

theorem BuildFault.tells_toFailure (fault : BuildFault) :
    fault.toFailure.Tells (fault.shown.all Value.isWritable) :=
  Failure.tells_showing rfl

theorem Malformed.tells_toFailure (cause : Malformed) :
    cause.toFailure.Tells (cause.shown.all Value.isWritable) :=
  Failure.tells_showing rfl

theorem Refusal.tells_toFailure (refusal : Refusal) : refusal.toFailure.Tells refusal.isTold := by
  cases refusal with
  | malformed | unsupported => exact rfl
  | unwritable check => cases check <;> exact ⟨rfl, nofun⟩

namespace Field

open Checked

theorem steady_readText (value : Value) : (readText value).Steady := by
  unfold readText
  split <;> split <;> simp

private theorem steady_readIntText (text : String) : (readIntText text).Steady := by
  unfold readIntText
  dsimp only
  split
  · exact steady_fault
  · split <;> simp

private theorem steady_readIntFloat (x : Binary64) : (readIntFloat x).Steady := by
  unfold readIntFloat
  split
  · exact steady_fault
  · split
    · exact steady_fault
    · split <;> simp

private theorem steady_readIntDecimal (d : Decimal) : (readIntDecimal d).Steady := by
  unfold readIntDecimal
  split
  · exact steady_fault
  · split <;> simp

theorem steady_readInt (value : Value) : (readInt value).Steady := by
  unfold readInt
  split
  · exact steady_ok
  · exact steady_ok
  · exact steady_readIntFloat _
  · exact steady_readIntDecimal _
  · split
    · exact steady_readIntText _
    · exact steady_fault
  · split
    · exact steady_readIntText _
    · exact steady_fault

end Field

variable {failure : Failure}

theorem HitOrder.steady_ofEntries (field direction : Value) :
    (ofEntries [(.text "field", field), (.text "direction", direction)]).Steady := by
  have named : (readField field).Steady :=
    (Field.steady_readText field).andThen fun s => by split <;> simp
  have directed : (SortDirection.read direction).Steady := by
    unfold SortDirection.read
    split <;> simp
  exact (named.inside (.name "field")).seq (directed.inside (.name "direction"))

namespace Window

private theorem steady_readBounded (bound : Nat) (value : Value) : (readBounded bound value).Steady := by
  by_cases missing : value = .null
  · subst missing
    exact Field.Checked.steady_ok
  · have enough (n : Int) : (Field.atLeast bound n).Steady := by
      unfold Field.atLeast
      split <;> simp
    rw [readBounded_of_ne missing]
    exact ((Field.steady_readInt value).andThen enough).map some

theorem steady_ofEntries (start length : Value) :
    (ofEntries [(.text "start", start), (.text "length", length)]).Steady :=
  ((steady_readBounded 0 start).inside (.name "start")).seq
    ((steady_readBounded 1 length).inside (.name "length"))

end Window

namespace Query

variable {q : Query} {field direction start length : Value}

theorem tells_of_sort (refused : q.sort field direction = .error failure) :
    failure.Tells field.isWritable := by
  rw [sort_eq_map, Result.map_eq_error_iff] at refused
  unfold orderOf at refused
  split at refused
  · cases refused
  · next details _ =>
    cases refused
    simpa [BuildFault.shown] using (BuildFault.invalidSort field ⟨"SortSpec", details⟩).tells_toFailure
  · next other stopped => exact absurd stopped (HitOrder.steady_ofEntries _ _ other)

theorem tells_of_range (refused : q.range start length = .error failure) :
    failure.Tells ([start, length].all Value.isWritable) := by
  rw [range_eq_map, Result.map_eq_error_iff] at refused
  unfold windowOf at refused
  split at refused
  · cases refused
  · split at refused
    · cases refused
    · next details _ =>
      cases refused
      exact (BuildFault.invalidRange start length ⟨"RangeSpec", details⟩).tells_toFailure
    · next other stopped => exact absurd stopped (Window.steady_ofEntries _ _ other)

end Query

namespace Declarative

variable {q : Query} {entry range : Value} {items : List Value} {entries : List (Value × Value)}

/-- The value that is shown for an entry that stands for no order of hits: the field that it gives, and else
the entry itself. -/
def entryShown : Value → Value
  | .map entries => (Value.lookup? "field" entries).getD (.text "")
  | .list [field] | .tuple [field] | .list [field, _] | .tuple [field, _] => field
  | other => other

/-- The values that are shown for a range that is none: the parts that it gives, and else itself. -/
def rangeShown : Value → List Value
  | .map entries => [Document.given "start" entries, Document.given "length" entries]
  | other => [other]

private theorem tells_of_sortEntry (refused : sortEntry q entry = .error failure) :
    failure.Tells (entryShown entry).isWritable := by
  unfold sortEntry at refused
  split at refused
  · exact Query.tells_of_sort refused
  · exact Query.tells_of_sort refused
  · exact Query.tells_of_sort refused
  · exact Query.tells_of_sort refused
  · exact Query.tells_of_sort refused
  · next other notMap notOne notOneTuple notTwo notTwoTuple =>
    have shown : entryShown entry = entry := entryShown.eq_6 entry notMap notOne notOneTuple notTwo notTwoTuple
    rw [shown]
    split at refused
    · exact Query.tells_of_sort refused
    · cases refused
      simpa [Malformed.shown] using (Malformed.invalidSort entry).tells_toFailure

/-- Entries are refused for the first of them that stands for no order of hits. -/
theorem foldSorts_refused (refused : foldSorts sortEntry q items = .error failure) :
    ∃ before item after orders, items = before ++ item :: after ∧ List.Forall₂ SortsBy before orders ∧
      (∀ order, ¬ SortsBy item order) ∧ failure.Tells (entryShown item).isWritable := by
  induction items generalizing q with
  | nil => cases refused
  | cons item rest ih =>
    rcases Result.bind_eq_error_iff.mp refused with first | ⟨_, applied, later⟩
    · refine ⟨[], item, rest, [], rfl, .nil, fun order sorts => ?_, tells_of_sortEntry first⟩
      have applied : sortEntry q item = .ok { q with orders := q.orders ++ [order] } :=
        sortEntry_eq_ok_iff.mpr ⟨order, sorts, rfl⟩
      cases first.symm.trans applied
    · obtain ⟨before, wrong, after, orders, rfl, earlier, none, tells⟩ := ih later
      obtain ⟨order, sorts, _⟩ := sortEntry_eq_ok_iff.mp applied
      exact ⟨item :: before, wrong, after, order :: orders, rfl, .cons sorts earlier, none, tells⟩

theorem applyRange_refused (fresh : q.window = none) (refused : applyRange q range = .error failure) :
    (∀ window, ¬ Windowed range window) ∧ failure.Tells ((rangeShown range).all Value.isWritable) := by
  constructor
  · intro window said
    have applied : applyRange q range = .ok { q with window } :=
      (applyRange_eq_ok_iff fresh).mpr ⟨window, said, rfl⟩
    cases refused.symm.trans applied
  · unfold applyRange at refused
    split at refused
    · cases refused
    · split at refused
      · exact Query.tells_of_range refused
      · next notMap =>
        cases refused
        rw [rangeShown.eq_2 range notMap]
        exact (Malformed.invalidRange range).tells_toFailure

/-- Directives that have entries to sort by are refused for the first of these that stands for no order of
hits, and else for the range. -/
theorem applyDirectives_refused (fresh : q.window = none)
    (listed : sortItems? (Document.given "sort" entries) = some items)
    (refused : applyDirectives q entries = .error failure) :
    (∃ before item after orders, items = before ++ item :: after ∧ List.Forall₂ SortsBy before orders ∧
      (∀ order, ¬ SortsBy item order) ∧ failure.Tells (entryShown item).isWritable) ∨
    ((∃ orders, List.Forall₂ SortsBy items orders) ∧
      (∀ window, ¬ Windowed (Document.given "range" entries) window) ∧
      failure.Tells ((rangeShown (Document.given "range" entries)).all Value.isWritable)) := by
  rw [applyDirectives_eq] at refused
  rcases Result.bind_eq_error_iff.mp refused with sorted | ⟨sorted, applied, later⟩
  · rw [applySorts_eq, listed] at sorted
    exact .inl (foldSorts_refused sorted)
  · rcases Result.bind_eq_error_iff.mp later with ranged | ⟨_, _, counted⟩
    · rw [applySorts_eq, listed] at applied
      obtain ⟨orders, each, rfl⟩ := foldSorts_eq_ok_iff.mp applied
      have still : ({ q with orders := q.orders ++ orders } : Query).window = none := fresh
      exact .inr ⟨⟨orders, each⟩, applyRange_refused still ranged⟩
    · cases counted

end Declarative

end SearchFilter
