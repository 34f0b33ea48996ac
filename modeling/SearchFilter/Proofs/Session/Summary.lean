import SearchFilter.Proofs.Request.Assembly
import SearchFilter.Proofs.Session.Run

/-!
The request of a query after any calls. It depends on four things only: the members that were added to
the root, the last order, the last window and the last choice between counting and searching. Calls that
fail, that run the query or that change another group leave no other trace.
-/

namespace SearchFilter

/-- What the calls on a query come down to. -/
structure Summary where
  members : Option (List Tree)
  order : Option HitOrder
  window : Option Window
  counts : Bool

namespace Summary

/-- The summary of calls that succeeded. The groups among the members are as the store has them, and
have no tree if one of them is inside itself. -/
def ofCalls (root : GroupId) (groups : Store) (calls : List Call) : Summary where
  members := (calls.filterMap (Call.addedTo? root root)).mapM (Store.unfoldMember groups.tree?)
  order := (calls.filterMap Call.order?).getLast?
  window := (calls.filterMap Call.window?).getLast?.join
  counts := (calls.filterMap Call.count?).getLast?.any Value.isTruthy

/-- The request of a summary. -/
def request (summary : Summary) (compiler : Compiler) (entityType : Value)
    (conjunction : Conjunction) : Trace LogRecord Request :=
  match summary.members with
  | some members => compiler.request entityType ⟨conjunction, members⟩ summary.order.toList
      summary.window summary.counts
  | none => .fail .tooDeep

/-- The answer of a query that is compiled, with its request. -/
def compile (summary : Summary) (compiler : Compiler) (entityType : Value)
    (conjunction : Conjunction) : Trace Event Answer := do
  let r ← (summary.request compiler entityType conjunction).mapEvents Event.logged
  pure (.request r)

end Summary

namespace Session

variable {s : Session} {turns : List Turn} {entityType conjunction : Value}
  {settings : Option Settings} {known : Conjunction}

/-- The members of the root are added one by one in a run, and not assigned. -/
def KeepsRoot (s : Session) (turns : List Turn) : Prop :=
  ∀ c ∈ s.succeeded turns, ¬ c.Assigns s.query.root s.query.root

theorem keepsRoot_of_turns
    (none : ∀ t ∈ turns, ¬ t.call.Assigns s.query.root s.query.root) : s.KeepsRoot turns := by
  intro c member
  obtain ⟨t, inside, rfl⟩ := exists_of_mem_succeeded member
  exact none t inside

/-- The summary of a run, with the groups as they are at its end. -/
def summary (s : Session) (turns : List Turn) : Summary :=
  .ofCalls s.query.root (s.run turns).groups (s.succeeded turns)

/-- The root of a run has the conjunction that the query was made with, over what was added to it. -/
private theorem tree?_root {store : Store} (begins : s.groups = (store.create ⟨known, []⟩).1)
    (rooted : s.query.root = (store.create ⟨known, []⟩).2) (keeps : s.KeepsRoot turns) :
    (s.run turns).groups.tree? s.query.root = (s.summary turns).members.map (⟨known, ·⟩) := by
  have root : s.groups.cell? s.query.root = some ⟨known, []⟩ := by
    rw [begins, rooted]
    exact Store.cell?_create
  obtain ⟨cell, found, same, grown⟩ := cell?_run turns root
  rw [Store.tree?_of_cell? found, grown keeps, same]
  rfl

private theorem request_run (new : New entityType conjunction settings s)
    (read : Conjunction.read conjunction = .ok known) (keeps : s.KeepsRoot turns) :
    (s.run turns).query.request (s.run turns).groups =
      (s.summary turns).request s.query.compiler entityType known := by
  obtain ⟨again, reread, begins, query⟩ := queryMake_eq_ok (queryMake_of_new new)
  cases read.symm.trans reread
  have tree := tree?_root begins (congrArg Query.root query) keeps
  have orders : s.query.orders = [] := congrArg Query.orders query
  have window : s.query.window = none := congrArg Query.window query
  have count : s.query.count = .bool false := congrArg Query.count query
  have named : s.query.entityType = entityType := congrArg Query.entityType query
  -- a new query has no window and does not count, which is what the summary says without such calls
  have last : ((s.succeeded turns).filterMap Call.window?).getLast?.getD none =
      (s.summary turns).window := by
    unfold summary Summary.ofCalls
    cases ((s.succeeded turns).filterMap Call.window?).getLast? <;> rfl
  have mode : (((s.succeeded turns).filterMap Call.count?).getLast?.getD (.bool false)).isTruthy =
      (s.summary turns).counts := by
    unfold summary Summary.ofCalls
    cases ((s.succeeded turns).filterMap Call.count?).getLast? <;> rfl
  unfold Query.request Summary.request
  rw [query_run, Query.after, tree]
  cases (s.summary turns).members with
  | none => rfl
  | some members =>
    simp only [Option.map_some, Query.requestOf, Query.counts]
    rw [orders, window, count, named, last, mode, List.nil_append, ← Compiler.request_getLast?]
    rfl

private theorem perform_compile (new : New entityType conjunction settings s)
    (read : Conjunction.read conjunction = .ok known) (keeps : s.KeepsRoot turns) :
    ((s.run turns).perform .compile).2 =
      (s.summary turns).compile s.query.compiler entityType known := by
  rw [Summary.compile, ← request_run new read keeps]
  rfl

/-- However calls are interleaved with runs of the query and with calls that fail, the query compiles to
the request of their summary; so calls with one summary make one request, or fail alike. -/
theorem compile_run (new : New entityType conjunction settings s) (keeps : s.KeepsRoot turns) :
    (∃ known, Conjunction.read conjunction = .ok known ∧ ((s.run turns).perform .compile).2 =
      (s.summary turns).compile s.query.compiler entityType known) ∧
    ∀ other others, New entityType conjunction settings other → other.KeepsRoot others →
      s.summary turns = other.summary others →
      ((s.run turns).perform .compile).2 = ((other.run others).perform .compile).2 := by
  obtain ⟨known, read, _⟩ := queryMake_eq_ok (queryMake_of_new new)
  refine ⟨⟨known, read, perform_compile new read keeps⟩, fun other others again kept same => ?_⟩
  have both := (queryMake_of_new new).symm.trans (queryMake_of_new again)
  have query : s.query = other.query := (Prod.mk.inj (Except.ok.inj both)).2
  rw [perform_compile new read keeps, perform_compile again read kept, same, query]

/-- A group that gets its condition after it was added, a sort that fails, and a run of the query. -/
def interleavedCalls : List Turn :=
  [.condition none (.value (.text "status")) .null (.text "published"),
    .sort (.text "created") (.text "sideways"), .createGroup (.conjunction .or),
    .condition none (.group 1) .null .null, .sort (.text "title") (.text "asc"),
    .condition (some 1) (.value (.text "body")) (.operator .isNull) .null,
    .range (.int 10) (.int 5), .execute, .range .null .null, .count (.bool true),
    .sort (.text "created") (.text "desc"), .count (.bool false)].map fun call => ⟨call, .vacant, true⟩

/-- The same members and the same order, and nothing else. -/
def plainCalls : List Turn :=
  [.createGroup (.conjunction .or),
    .condition (some 1) (.value (.text "body")) (.operator .isNull) .null,
    .condition none (.value (.text "status")) .null (.text "published"),
    .sort (.text "created") (.text "desc"),
    .condition none (.group 1) .null .null].map fun call => ⟨call, .vacant, true⟩

theorem compile_run_interleaved :
    overNodes.summary interleavedCalls =
      ⟨some [.leaf ⟨"status", .eq, .text "published"⟩, .group .or [.leaf ⟨"body", .isNull, .null⟩]],
        some ⟨"created", .descending⟩, none, false⟩ ∧
    ((overNodes.run interleavedCalls).perform .compile).2 =
      ((overNodes.run plainCalls).perform .compile).2 := by
  have keeps : overNodes.KeepsRoot interleavedCalls :=
    keepsRoot_of_turns (by simp [interleavedCalls, Call.Assigns])
  have kept : overNodes.KeepsRoot plainCalls :=
    keepsRoot_of_turns (by simp [plainCalls, Call.Assigns])
  exact ⟨rfl, (compile_run new_overNodes keeps).2 overNodes plainCalls new_overNodes kept rfl⟩

end Session

end SearchFilter
