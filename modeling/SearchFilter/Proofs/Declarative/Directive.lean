import SearchFilter.Declarative
import SearchFilter.Proofs.Document.Reading
import SearchFilter.Proofs.Session.Directive

namespace SearchFilter

/-- A field and a direction, as values, say how hits are ordered: the field is a text that is not empty,
and the direction one of two words, a text in any case. -/
def HitOrder.SaidBy (order : HitOrder) (field direction : Value) : Prop :=
  Field.readText field = .ok order.field ∧ order.field ≠ "" ∧
    Field.readText (Query.directionOf direction) = .ok order.direction.name

/-- A value is a part of a window: none, or an integer that is large enough. -/
inductive Window.Part (bound : Nat) : Value → Option Int → Prop
  | absent : Part bound .null none
  | given {value : Value} {n : Int} (read : Field.readInt value = .ok n) (large : (bound : Int) ≤ n) :
      Part bound value (some n)

/-- Two values say which window is meant: none without any of its parts. -/
inductive Window.SaidBy : Value → Value → Option Window → Prop
  | nothing : SaidBy .null .null none
  | parts {start length : Value} {w : Window} (given : ¬ (start = .null ∧ length = .null))
      (first : Part 0 start w.start) (second : Part 1 length w.length) : SaidBy start length (some w)

namespace Declarative

/-- The field and the direction that an entry gives, as values: a text is a field, a mapping names both,
and a list has the field first. Where no direction is given, it is up. -/
inductive Gives : Value → Value → Value → Prop
  | field {entry : Value} {name : String} (text : entry.asText? = some name) :
      Gives entry entry (.text "ASC")
  | mapping (entries : List (Value × Value)) :
      Gives (.map entries) ((Value.lookup? "field" entries).getD (.text ""))
        ((Value.lookup? "direction" entries).getD (.text "ASC"))
  | single (field : Value) : Gives (.list [field]) field (.text "ASC")
  | pair (field direction : Value) : Gives (.list [field, direction]) field direction
  | singleTuple (field : Value) : Gives (.tuple [field]) field (.text "ASC")
  | pairTuple (field direction : Value) : Gives (.tuple [field, direction]) field direction

/-- The order of hits that an entry stands for. -/
def SortsBy (entry : Value) (order : HitOrder) : Prop :=
  ∃ field direction, Gives entry field direction ∧ order.SaidBy field direction

/-- The window that a document asks for: none if it says nothing, else that of a mapping. -/
inductive Windowed : Value → Option Window → Prop
  | unsaid {range : Value} (falsy : range.isTruthy = false) : Windowed range none
  | said {entries : List (Value × Value)} {window : Option Window} (some : entries ≠ [])
      (parts : Window.SaidBy (Document.given "start" entries) (Document.given "length" entries) window) :
      Windowed (.map entries) window

/-- The entries that a document sorts by, if it gives something that has entries, or nothing. -/
def sortItems? (sorts : Value) : Option (List Value) :=
  if sorts.isTruthy then sorts.items? else some []

end Declarative

namespace SortDirection

theorem read_eq_ok_iff {value : Value} {direction : SortDirection} :
    read value = .ok direction ↔ Field.readText value = .ok direction.name := by
  unfold read
  cases known : Field.readText value with
  | faults details => simp [Field.Checked.andThen, Field.Checked.fault]
  | stopped failure => simp [Field.Checked.andThen, Field.Checked.fault]
  | ok s =>
    by_cases up : s = "ASC"
    · subst up
      cases direction <;> simp [Field.Checked.andThen, name]
    · by_cases down : s = "DESC"
      · subst down
        cases direction <;> simp [Field.Checked.andThen, name]
      · cases direction <;> simp [Field.Checked.andThen, Field.Checked.fault, name, up, down]

end SortDirection

namespace HitOrder

theorem readField_eq_ok_iff {value : Value} {s : String} :
    readField value = .ok s ↔ Field.readText value = .ok s ∧ s ≠ "" := by
  rw [readField, Field.Checked.andThen_eq_ok_iff]
  constructor
  · rintro ⟨t, read, kept⟩
    split at kept
    · cases kept
    · next full =>
      cases kept
      exact ⟨read, by simpa using full⟩
  · rintro ⟨read, full⟩
    exact ⟨s, read, if_neg (by simpa using full)⟩

theorem ofEntries_eq (field direction : Value) :
    ofEntries [(.text "field", field), (.text "direction", direction)] =
      HitOrder.mk <$> (readField field).inside (.name "field") <*>
        (SortDirection.read direction).inside (.name "direction") := rfl

end HitOrder

namespace Window

variable {bound : Nat} {value : Value} {n : Option Int}

theorem readBounded_of_ne (present : value ≠ .null) :
    readBounded bound value = ((Field.readInt value).andThen (Field.atLeast bound)).map some := by
  unfold readBounded Field.readOptional
  cases value with
  | null => exact absurd rfl present
  | _ => rfl

private theorem atLeast_eq_ok_iff {k m : Int} :
    Field.atLeast bound k = .ok m ↔ (bound : Int) ≤ k ∧ k = m := by
  by_cases large : (bound : Int) ≤ k
  · simp [Field.atLeast, large]
  · simp [Field.atLeast, large, Field.Checked.fault]

theorem readBounded_eq_ok_iff : readBounded bound value = .ok n ↔ Part bound value n := by
  by_cases missing : value = .null
  · subst missing
    constructor
    · rintro ⟨⟩
      exact .absent
    · rintro (_ | ⟨read, _⟩)
      · rfl
      · cases read
  · rw [readBounded_of_ne missing, Field.Checked.map_eq_ok_iff]
    simp only [Field.Checked.andThen_eq_ok_iff, atLeast_eq_ok_iff]
    constructor
    · rintro ⟨_, ⟨k, read, large, rfl⟩, rfl⟩
      exact .given read large
    · rintro (_ | ⟨read, large⟩)
      · exact absurd rfl missing
      · exact ⟨_, ⟨_, read, large, rfl⟩, rfl⟩

theorem ofEntries_eq (start length : Value) :
    ofEntries [(.text "start", start), (.text "length", length)] =
      Window.mk <$> (readBounded 0 start).inside (.name "start") <*>
        (readBounded 1 length).inside (.name "length") := rfl

theorem ofEntries_eq_ok_iff {start length : Value} {w : Window} :
    ofEntries [(.text "start", start), (.text "length", length)] = .ok w ↔
      Part 0 start w.start ∧ Part 1 length w.length := by
  rw [ofEntries_eq, Field.Checked.seq_eq_ok_iff]
  simp only [Field.Checked.inside_eq_ok_iff, readBounded_eq_ok_iff]
  constructor
  · rintro ⟨_, _, first, second, rfl⟩
    exact ⟨first, second⟩
  · rintro ⟨first, second⟩
    exact ⟨w.start, w.length, first, second, rfl⟩

end Window

namespace Query

variable {q changed : Query} {field direction start length : Value} {order : HitOrder}
  {window : Option Window}

theorem orderOf_eq_ok_iff : orderOf field direction = .ok order ↔ order.SaidBy field direction := by
  have read : orderOf field direction = .ok order ↔ HitOrder.ofEntries
      [(.text "field", field), (.text "direction", directionOf direction)] = .ok order := by
    unfold orderOf
    cases HitOrder.ofEntries [(.text "field", field), (.text "direction", directionOf direction)] <;> simp
  rw [read, HitOrder.ofEntries_eq, Field.Checked.seq_eq_ok_iff]
  simp only [Field.Checked.inside_eq_ok_iff, HitOrder.readField_eq_ok_iff, SortDirection.read_eq_ok_iff]
  constructor
  · rintro ⟨_, _, ⟨named, full⟩, directed, rfl⟩
    exact ⟨named, full, directed⟩
  · rintro ⟨named, full, directed⟩
    exact ⟨order.field, order.direction, ⟨named, full⟩, directed, rfl⟩

/-- Without any part no window is meant; and else both parts have to be parts of one. -/
theorem windowOf_eq_ok_iff :
    windowOf start length = .ok window ↔ Window.SaidBy start length window := by
  by_cases nothing : start = .null ∧ length = .null
  · obtain ⟨rfl, rfl⟩ := nothing
    constructor
    · rintro ⟨⟩
      exact .nothing
    · rintro (_ | ⟨given, _, _⟩)
      · rfl
      · exact absurd ⟨rfl, rfl⟩ given
  · have read : windowOf start length = .ok window ↔ ∃ w, window = some w ∧
        Window.ofEntries [(.text "start", start), (.text "length", length)] = .ok w := by
      unfold windowOf
      split
      · exact absurd ⟨rfl, rfl⟩ nothing
      · cases Window.ofEntries [(.text "start", start), (.text "length", length)] <;> simp [eq_comm]
    rw [read]
    simp only [Window.ofEntries_eq_ok_iff]
    constructor
    · rintro ⟨w, rfl, first, second⟩
      exact .parts nothing first second
    · rintro (_ | ⟨_, first, second⟩)
      · exact absurd ⟨rfl, rfl⟩ nothing
      · exact ⟨_, rfl, first, second⟩

theorem sort_eq_ok_iff : q.sort field direction = .ok changed ↔
    ∃ order, HitOrder.SaidBy order field direction ∧
      changed = { q with orders := q.orders ++ [order] } := by
  rw [sort_eq_map, Result.map_eq_ok_iff]
  simp only [orderOf_eq_ok_iff, eq_comm (b := changed)]

theorem range_eq_ok_iff : q.range start length = .ok changed ↔
    ∃ window, Window.SaidBy start length window ∧ changed = { q with window } := by
  rw [range_eq_map, Result.map_eq_ok_iff]
  simp only [windowOf_eq_ok_iff, eq_comm (b := changed)]

end Query

namespace Declarative

variable {q changed : Query} {entry sorts range count : Value} {items : List Value}
  {entries : List (Value × Value)}

private theorem sortEntry_of_gives {field direction : Value} (gives : Gives entry field direction) :
    sortEntry q entry = q.sort field direction := by
  cases gives with
  | field text =>
    unfold sortEntry
    split
    all_goals first | cases text | rw [text]
  | _ => rfl

private theorem gives_of_sortEntry (applied : sortEntry q entry = .ok changed) :
    ∃ field direction, Gives entry field direction := by
  unfold sortEntry at applied
  split at applied
  · exact ⟨_, _, .mapping _⟩
  · exact ⟨_, _, .single _⟩
  · exact ⟨_, _, .singleTuple _⟩
  · exact ⟨_, _, .pair _ _⟩
  · exact ⟨_, _, .pairTuple _ _⟩
  · split at applied
    · next text => exact ⟨_, _, .field text⟩
    · cases applied

/-- An entry is applied exactly if it stands for an order, which is then the last one. -/
theorem sortEntry_eq_ok_iff : sortEntry q entry = .ok changed ↔
    ∃ order, SortsBy entry order ∧ changed = { q with orders := q.orders ++ [order] } := by
  constructor
  · intro applied
    obtain ⟨field, direction, gives⟩ := gives_of_sortEntry applied
    rw [sortEntry_of_gives gives, Query.sort_eq_ok_iff] at applied
    obtain ⟨order, said, same⟩ := applied
    exact ⟨order, ⟨field, direction, gives, said⟩, same⟩
  · rintro ⟨order, ⟨field, direction, gives, said⟩, same⟩
    rw [sortEntry_of_gives gives]
    exact Query.sort_eq_ok_iff.mpr ⟨order, said, same⟩

theorem foldSorts_eq_ok_iff : foldSorts sortEntry q items = .ok changed ↔
    ∃ orders, List.Forall₂ SortsBy items orders ∧ changed = { q with orders := q.orders ++ orders } := by
  induction items generalizing q with
  | nil => simp [foldSorts, eq_comm]
  | cons item rest ih =>
    rw [foldSorts, Result.bind_eq_ok_iff]
    simp only [sortEntry_eq_ok_iff, ih]
    constructor
    · rintro ⟨_, ⟨order, first, rfl⟩, orders, later, rfl⟩
      exact ⟨order :: orders, .cons first later, by simp⟩
    · rintro ⟨_, _ | ⟨first, later⟩, rfl⟩
      exact ⟨_, ⟨_, first, rfl⟩, _, later, by simp⟩

theorem applySorts_eq (q : Query) (sorts : Value) : applySorts q sorts =
    match sortItems? sorts with
    | none => .error .wrongType
    | some items => foldSorts sortEntry q items := by
  unfold applySorts sortItems?
  cases sorts.isTruthy with
  | false => rfl
  | true =>
    cases sorts.items? <;> simp

/-- Sort directives are applied exactly if the document gives something that has entries, and each of them
stands for an order. -/
theorem applySorts_eq_ok_iff : applySorts q sorts = .ok changed ↔
    ∃ items orders, sortItems? sorts = some items ∧ List.Forall₂ SortsBy items orders ∧
      changed = { q with orders := q.orders ++ orders } := by
  rw [applySorts_eq]
  cases sortItems? sorts with
  | none => simp
  | some items => simp [foldSorts_eq_ok_iff]

theorem applyRange_eq_ok_iff (fresh : q.window = none) : applyRange q range = .ok changed ↔
    ∃ window, Windowed range window ∧ changed = { q with window } := by
  have same : { q with window := none } = q := by rw [← fresh]
  unfold applyRange
  cases truthy : range.isTruthy with
  | false =>
    constructor
    · rintro ⟨⟩
      exact ⟨none, .unsaid truthy, same.symm⟩
    · rintro ⟨_, _ | ⟨some, _⟩, rfl⟩
      · exact congrArg Except.ok same.symm
      · simp [Value.isTruthy, some] at truthy
  | true =>
    cases range with
    | map entries =>
      have some : entries ≠ [] := by
        rintro rfl
        cases truthy
      simp only [Bool.not_true, Bool.false_eq_true, if_false, Query.range_eq_ok_iff]
      constructor
      · rintro ⟨window, said, rfl⟩
        exact ⟨window, .said some said, rfl⟩
      · rintro ⟨window, ⟨falsy⟩ | ⟨_, said⟩, rfl⟩
        · cases truthy.symm.trans falsy
        · exact ⟨window, said, rfl⟩
    | _ =>
      constructor
      · rintro ⟨⟩
      · rintro ⟨_, ⟨falsy⟩, _⟩
        cases truthy.symm.trans falsy

theorem applyDirectives_eq (q : Query) (entries : List (Value × Value)) :
    applyDirectives q entries = applySorts q (Document.given "sort" entries) >>= fun sorted =>
      applyRange sorted (Document.given "range" entries) >>= fun ranged =>
        .ok (applyCount ranged (Document.given "count" entries)) := rfl

/-- The directives of a document are applied to a new query exactly if each of them says what it should. -/
theorem applyDirectives_eq_ok_iff (fresh : q.window = none) : applyDirectives q entries = .ok changed ↔
    ∃ items orders window, sortItems? (Document.given "sort" entries) = some items ∧
      List.Forall₂ SortsBy items orders ∧ Windowed (Document.given "range" entries) window ∧
      changed = applyCount { q with orders := q.orders ++ orders, window }
        (Document.given "count" entries) := by
  rw [applyDirectives_eq, Result.bind_eq_ok_iff]
  constructor
  · rintro ⟨_, sorted, later⟩
    obtain ⟨items, orders, listed, each, rfl⟩ := applySorts_eq_ok_iff.mp sorted
    obtain ⟨_, ranged, done⟩ := Result.bind_eq_ok_iff.mp later
    have still : ({ q with orders := q.orders ++ orders } : Query).window = none := fresh
    obtain ⟨window, said, rfl⟩ := (applyRange_eq_ok_iff still).mp ranged
    cases done
    exact ⟨items, orders, window, listed, each, said, rfl⟩
  · rintro ⟨items, orders, window, listed, each, said, rfl⟩
    have still : ({ q with orders := q.orders ++ orders } : Query).window = none := fresh
    refine ⟨_, applySorts_eq_ok_iff.mpr ⟨items, orders, listed, each, rfl⟩, ?_⟩
    exact Result.bind_eq_ok_iff.mpr ⟨_, (applyRange_eq_ok_iff still).mpr ⟨window, said, rfl⟩, rfl⟩

end Declarative

end SearchFilter
