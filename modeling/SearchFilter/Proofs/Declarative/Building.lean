import SearchFilter.Proofs.Declarative.Directive
import SearchFilter.Proofs.Store.Cell

/-!
Queries built from documents. The filter is read, stored below a new root and given the directives one
after another. Main statements: a document forms a query exactly if its filter is read and its directives
say what they should, and the query then compiles to the request of the filter with these directives.
-/

namespace SearchFilter

/-- The compiler of a query with the given settings, or with none. -/
def Compiler.ofSettings : Option Settings → Compiler
  | some s => ⟨.int s.query.maxResultWindow, s.query.warnOnLeadingWildcard⟩
  | none => .standard

/-- Settings ask for a window that holds at least one hit. -/
def Settings.Valid (s : Settings) : Prop :=
  1 ≤ s.query.maxResultWindow

namespace Compiler

theorem lessThanOne_int (n : Int) : lessThanOne (.int n) = .ok (decide (n < 1)) := by
  have order : Position.before (.at (n : Rat)) (.at ((1 : Int) : Rat)) = decide (n < 1) := by
    simp only [Position.before]
    congr 1
    exact propext Rat.intCast_lt_intCast
  simp only [lessThanOne, Number.less?, Number.isDecimal, Number.position, Bool.or_self, Bool.false_and,
    Bool.false_eq_true, if_false]
  exact congrArg Except.ok order

theorem make_int {n : Int} {warnings : Bool} (positive : 1 ≤ n) :
    make (.int n) warnings = .ok ⟨.int n, warnings⟩ := by
  have enough : ¬ n < 1 := Int.not_lt.mpr positive
  simp [make, Value.asNumber?, lessThanOne_int, enough]

end Compiler

namespace Declarative

variable {index : Value} {settings : Option Settings} {entries : List (Value × Value)} {g : Group}

/-- The store of a query with a filter: the root is its first group. -/
def stored (g : Group) : Store :=
  let rooted := (Store.empty.create ⟨g.conjunction, []⟩).1
  (rooted.insertAll g.members).1.setMembers 0 (rooted.insertAll g.members).2

theorem tree?_stored (g : Group) : (stored g).tree? 0 = some g := by
  let rooted := (Store.empty.create ⟨g.conjunction, []⟩).1
  have growth : rooted.cells <+: (rooted.insertAll g.members).1.cells := Store.prefix_insertAll
  have root : (rooted.insertAll g.members).1.cell? 0 = some ⟨g.conjunction, []⟩ :=
    Store.cell?_of_growth growth rfl
  have members : List.Forall₂ ((rooted.insertAll g.members).1.DenotesFrom 1)
    (rooted.insertAll g.members).2 g.members := Store.denotesFrom_insertAll
  refine Store.tree?_eq_some_iff.mpr (Store.denotes_group_iff.mpr
    ⟨⟨g.conjunction, (rooted.insertAll g.members).2⟩, ?_, rfl, members.imp fun _ _ shown => ?_⟩)
  · rw [stored, Store.cell?_setMembers, if_pos rfl, root, Option.map_some]
  · -- the members are groups behind the root, which alone is written to
    refine shown.2 _ fun id cell behind held => ?_
    rw [stored, Store.cell?_setMembers, if_neg (Nat.ne_of_gt behind), held]

theorem make_eq {conjunction : Conjunction} (named : index.isTruthy = true)
    (valid : ∀ s ∈ settings, s.Valid) :
    Query.make .empty index (.conjunction conjunction) settings =
      .ok ((Store.empty.create ⟨conjunction, []⟩).1,
        ⟨index, 0, [], none, .bool false, .ofSettings settings⟩) := by
  unfold Query.make
  simp only [named]
  cases settings with
  | none => rfl
  | some s =>
    have compiler : s.query.compiler = .ok (.ofSettings (some s)) := Compiler.make_int (valid s rfl)
    simp only [compiler]
    rfl

/-- A document is built in steps: the filter is read, then a query is made, and its root is filled before
the directives are applied. -/
theorem build_eq (entries : List (Value × Value)) (index : Value) (settings : Option Settings) :
    build (.map entries) index settings =
      ((Group.ofDocument (.map entries)).mapError Refusal.toFailure) >>= fun g =>
        Query.make .empty index (.conjunction g.conjunction) settings >>= fun made =>
          applyDirectives made.2 entries >>= fun q => .ok
            ((made.1.insertAll g.members).1.setMembers made.2.root (made.1.insertAll g.members).2, q) := by
  unfold build
  cases Group.ofDocument (.map entries) <;> rfl

/-- A document forms a query exactly if its filter is read and its directives say what they should. -/
theorem build_eq_ok_iff (named : index.isTruthy = true) (valid : ∀ s ∈ settings, s.Valid)
    {built : Store × Query} : build (.map entries) index settings = .ok built ↔
      ∃ g items orders window, Group.ofDocument (.map entries) = .ok g ∧
        sortItems? (Document.given "sort" entries) = some items ∧ List.Forall₂ SortsBy items orders ∧
        Windowed (Document.given "range" entries) window ∧ built = (stored g,
          applyCount ⟨index, 0, orders, window, .bool false, .ofSettings settings⟩
            (Document.given "count" entries)) := by
  rw [build_eq, Result.bind_eq_ok_iff]
  constructor
  · rintro ⟨g, described, later⟩
    rw [make_eq named valid, Result.ok_bind] at later
    obtain ⟨q, directed, done⟩ := Result.bind_eq_ok_iff.mp later
    obtain ⟨items, orders, window, listed, each, said, rfl⟩ := (applyDirectives_eq_ok_iff rfl).mp directed
    cases done
    refine ⟨g, items, orders, window, ?_, listed, each, said, rfl⟩
    cases read : Group.ofDocument (.map entries) with
    | error refusal =>
      rw [read] at described
      cases described
    | ok known =>
      rw [read] at described
      cases described
      rfl
  · rintro ⟨g, items, orders, window, described, listed, each, said, rfl⟩
    refine ⟨g, by rw [described, Result.mapError_ok], ?_⟩
    rw [make_eq named valid, Result.ok_bind]
    exact Result.bind_eq_ok_iff.mpr
      ⟨_, (applyDirectives_eq_ok_iff rfl).mpr ⟨items, orders, window, listed, each, said, rfl⟩, rfl⟩

theorem request_built {orders : List HitOrder} {window : Option Window} {count : Value} {c : Compiler} :
    (applyCount ⟨index, 0, orders, window, .bool false, c⟩ count).request (stored g) =
      c.request index g orders window count.isTruthy := by
  cases truthy : count.isTruthy with
  | false =>
    simp only [applyCount, truthy, Bool.false_eq_true, if_false, Query.request, tree?_stored]
    rfl
  | true =>
    simp only [applyCount, truthy, if_true, Query.request, Query.setCount, tree?_stored]
    rfl

theorem exists_orders_iff {items : List Value} :
    (∃ orders, List.Forall₂ SortsBy items orders) ↔ ∀ item ∈ items, ∃ order, SortsBy item order := by
  induction items with
  | nil => simp
  | cons item rest ih =>
    rw [List.forall_mem_cons, ← ih]
    constructor
    · rintro ⟨_, _ | ⟨first, later⟩⟩
      exact ⟨⟨_, first⟩, _, later⟩
    · rintro ⟨⟨order, first⟩, orders, later⟩
      exact ⟨order :: orders, .cons first later⟩

/-- The entries that a document sorts by: those of a list, or none if it says nothing. -/
inductive ListsSorts (entries : List (Value × Value)) : List Value → Prop
  | unsaid (falsy : (Document.given "sort" entries).isTruthy = false) : ListsSorts entries []
  | listed {items : List Value} (some : items ≠ [])
      (list : Document.given "sort" entries = .list items) : ListsSorts entries items

theorem sortItems?_of_listsSorts {items : List Value} (lists : ListsSorts entries items) :
    sortItems? (Document.given "sort" entries) = some items := by
  cases lists with
  | unsaid falsy => rw [sortItems?, falsy, if_neg Bool.false_ne_true]
  | listed some list => simp [sortItems?, list, Value.isTruthy, Value.items?, some]

/-- A document that sorts by a list, or by nothing, forms no query exactly if its filter is refused, an
entry stands for no order of hits, or its window is none; and else its query compiles to the request of its
filter with the orders of its entries, its window and its choice between counting and searching. -/
theorem build_agrees {name : String} {items : List Value} (named : name ≠ "")
    (valid : ∀ s ∈ settings, s.Valid) (lists : ListsSorts entries items) :
    ((∃ failure, build (.map entries) (.text name) settings = .error failure) ↔
      (∃ refusal, Group.ofDocument (.map entries) = .error refusal) ∨
      (∃ item ∈ items, ∀ order, ¬ SortsBy item order) ∨
      ∀ window, ¬ Windowed (Document.given "range" entries) window) ∧
    ∀ g orders window, Group.ofDocument (.map entries) = .ok g → List.Forall₂ SortsBy items orders →
      Windowed (Document.given "range" entries) window →
      ∃ groups query, build (.map entries) (.text name) settings = .ok (groups, query) ∧
        query.request groups = (Compiler.ofSettings settings).request (.text name) g orders window
          (Document.given "count" entries).isTruthy := by
  have truthy : (Value.text name).isTruthy = true := by simpa [Value.isTruthy] using named
  have listed := sortItems?_of_listsSorts lists
  have builds : ∀ g orders window, Group.ofDocument (.map entries) = .ok g →
      List.Forall₂ SortsBy items orders → Windowed (Document.given "range" entries) window →
      ∃ groups query, build (.map entries) (.text name) settings = .ok (groups, query) ∧
        query.request groups = (Compiler.ofSettings settings).request (.text name) g orders window
          (Document.given "count" entries).isTruthy := fun g orders window described each said =>
    ⟨_, _, (build_eq_ok_iff truthy valid).mpr ⟨g, items, orders, window, described, listed, each, said, rfl⟩,
      request_built⟩
  refine ⟨?_, builds⟩
  constructor
  · rintro ⟨failure, failed⟩
    by_contra fine
    simp only [not_or, not_exists, not_and, not_forall, not_not] at fine
    obtain ⟨accepted, sorted, window, said⟩ := fine
    obtain ⟨orders, each⟩ := exists_orders_iff.mpr sorted
    cases described : Group.ofDocument (.map entries) with
    | error refusal => exact accepted refusal described
    | ok g =>
      obtain ⟨groups, query, built, _⟩ := builds g orders window described each said
      cases failed.symm.trans built
  · intro defect
    cases built : build (.map entries) (.text name) settings with
    | error failure => exact ⟨failure, rfl⟩
    | ok result =>
      obtain ⟨g, others, orders, window, described, again, each, said, _⟩ :=
        (build_eq_ok_iff truthy valid).mp built
      cases listed.symm.trans again
      rcases defect with ⟨refusal, refused⟩ | ⟨item, member, none⟩ | none
      · cases described.symm.trans refused
      · obtain ⟨order, sorts⟩ := exists_orders_iff.mp ⟨orders, each⟩ item member
        exact absurd sorts (none order)
      · exact absurd said (none window)

/-- A document that sorts in three notations and skips some hits. -/
def sortedEntries : List (Value × Value) :=
  [(.text "conjunction", .text "OR"), (.text "conditions", .list [.ofFields
      [("field", .text "title"), ("value", .int 1)]]),
    (.text "sort", .list [.text "created", .ofFields [("field", .text "title"),
      ("direction", .text "desc")], .list [.text "status"]]),
    (.text "range", .ofFields [("start", .int 5)]), (.text "count", .int 0)]

theorem build_agrees_sorted : ∃ groups query,
    build (.map sortedEntries) (.text "node") none = .ok (groups, query) ∧
      query.request groups = Compiler.standard.request (.text "node")
        ⟨.or, [.leaf ⟨"title", .eq, .int 1⟩]⟩
        [⟨"created", .ascending⟩, ⟨"title", .descending⟩, ⟨"status", .ascending⟩]
        (some ⟨some 5, none⟩) false := by
  have sorts : List.Forall₂ SortsBy [.text "created",
      .ofFields [("field", .text "title"), ("direction", .text "desc")], .list [.text "status"]]
      [⟨"created", .ascending⟩, ⟨"title", .descending⟩, ⟨"status", .ascending⟩] := by
    refine .cons ⟨_, _, .field rfl, rfl, by decide, rfl⟩
      (.cons ⟨_, _, .mapping _, rfl, by decide, rfl⟩ (.cons ⟨_, _, .single _, rfl, by decide, rfl⟩ .nil))
  have windowed : Windowed (Document.given "range" sortedEntries) (some ⟨some 5, none⟩) := by
    refine .said (List.cons_ne_nil _ _) (.parts ?_ (.given rfl (by decide)) .absent)
    rintro ⟨start, _⟩
    cases start
  have lists : ListsSorts sortedEntries _ := .listed (List.cons_ne_nil _ _) rfl
  exact (build_agrees (by decide) (by simp) lists).2 _ _ _ rfl sorts windowed

end Declarative

end SearchFilter
