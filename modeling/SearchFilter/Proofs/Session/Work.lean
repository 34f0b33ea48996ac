import SearchFilter.Proofs.Document.Reading
import SearchFilter.Proofs.Session.Attained

/-!
The calls of a session write by write. Work that fails keeps what it has written until then, so the order
of checks and writes matters. Main statements: reading writes to no group that was there, and work that
reads and then writes once leaves no trace where it fails.
-/

namespace SearchFilter

/-- Work on a session, which a failure ends. What was written before stays written. -/
abbrev Work := EStateM Failure Session

namespace Work

variable {α β : Type}

/-- A check, which writes nothing. -/
def check (result : Except Failure α) : Work α :=
  match result with
  | .ok a => pure a
  | .error failure => throw failure

/-- Creates an empty group. -/
def create (conjunction : Conjunction) : Work GroupId :=
  modifyGet fun s => (s.groups.cells.length, { s with groups := (s.groups.create ⟨conjunction, []⟩).1 })

/-- Stores a tree as new groups. -/
def store (t : Tree) : Work Member :=
  modifyGet fun s => ((s.groups.insert t).2, { s with groups := (s.groups.insert t).1 })

/-- Writes the members of a group. -/
def setMembers (id : GroupId) (members : List Member) : Work Unit :=
  modify fun s => { s with groups := s.groups.setMembers id members }

/-- Writes a directive of the query. -/
def direct (change : Query → Query) : Work Unit :=
  modify fun s => { s with query := change s.query }

/-- Refuses a group as a member of itself. -/
def refuseItself (id : GroupId) : Member → Except Failure Unit
  | .leaf _ => .ok ()
  | .group inner => if inner = id then .error (.malformed .containsItself) else .ok ()

/-- Puts a member behind those of a group. -/
def put (id : GroupId) (m : Member) : Work Unit := do
  check (refuseItself id m)
  let s ← get
  setMembers id (((s.groups.cell? id).map Cell.members).getD [] ++ [m])

/-- A group for a document that is to be read: its members come later. -/
def openGroup (path : Path) (entries : List (Value × Value)) : Work GroupId := do
  let conjunction ← check ((Document.header path entries).mapError Refusal.toFailure)
  create conjunction

def readLeaf (path : Path) (entries : List (Value × Value)) : Work Member :=
  match Value.lookup? "field" entries with
  | none => throw (.malformed (.fieldMissing path))
  | some field => do
    let c ← check ((Condition.compose field (Document.given "operator" entries)
      (Document.given "value" entries)).mapError Refusal.toFailure)
    pure (.leaf c)

mutual

/-- The member that an entry of a document describes. A group is created before its members are read. -/
def readEntry (path : Path) : Value → Work Member
  | .map entries =>
    if Document.isGroup entries then do
      let id ← openGroup path entries
      fill path id entries
      pure (.group id)
    else readLeaf path entries
  | _ => throw (.malformed (.entryNoMapping path))
termination_by structural v => v

/-- Gives a group the members that the first entry for conditions lists. -/
def fill (path : Path) (id : GroupId) : List (Value × Value) → Work Unit
  | [] => pure ()
  | e :: rest => match fillListed? path id e with
    | some filling => filling
    | none => fill path id rest
termination_by structural entries => entries

def fillListed? (path : Path) (id : GroupId) : Value × Value → Option (Work Unit)
  | (key, value) => match key with
    | .text name => if name == Document.conditionsKey then some (fillMembers path id value) else none
    | _ => none
termination_by structural e => e

def fillMembers (path : Path) (id : GroupId) : Value → Work Unit
  | .list items => fillItems path id 0 items
  | _ => throw (.malformed (.conditionsNoList path))
termination_by structural v => v

/-- Reads items one by one and puts each into the group before the next one is read. -/
def fillItems (path : Path) (id : GroupId) (index : Nat) : List Value → Work Unit
  | [] => pure ()
  | item :: rest => do
    let m ← readEntry (path ++ [index]) item
    put id m
    fillItems path id (index + 1) rest
termination_by structural items => items

end

/-- The group that the entries of a mapping describe. -/
def readGroup (path : Path) (entries : List (Value × Value)) : Work GroupId := do
  let id ← openGroup path entries
  fill path id entries
  pure id

/-- The group that a document describes. -/
def readDocument : Value → Work GroupId
  | .map entries => readGroup [] entries
  | _ => throw (.malformed (.groupNoMapping []))

/-- What an item that is to be assigned becomes, or its faults. Another failure ends the work. -/
def readItem (index : Nat) (item : Argument) : Work (Except (List Field.Detail) Member) :=
  match (Session.pendingOf item).inside (.index index) with
  | .ok (.member m) => pure (.ok m)
  | .ok (.tree t) => do
    let m ← store t
    pure (.ok m)
  | .faults details => pure (.error details)
  | .stopped failure => throw failure

/-- An item before others, where the faults of all are gathered. -/
def gather : Except (List Field.Detail) Member → Except (List Field.Detail) (List Member) →
    Except (List Field.Detail) (List Member)
  | .ok m, .ok members => .ok (m :: members)
  | .ok _, .error details => .error details
  | .error details, .ok _ => .error details
  | .error details, .error more => .error (details ++ more)

def readItems (index : Nat) : List Argument → Work (Except (List Field.Detail) (List Member))
  | [] => pure (.ok [])
  | item :: rest => do
    let first ← readItem index item
    let later ← readItems (index + 1) rest
    pure (gather first later)

/-- The members out of what was read, or the failure that reports the faults. -/
def report : Except (List Field.Detail) (List Member) → Except Failure (List Member)
  | .ok members => .ok members
  | .error details =>
    .error (.invalid ⟨Record.groupRecord, details.map (Field.Detail.inside (.name "members"))⟩)

/-- Reads the members that a group is to have, all before the group gets them. -/
def readMembers : MemberList → Work (List Member)
  | .items items => do
    let read ← readItems 0 items
    check (report read)
  | .other _ =>
    throw (.invalid ⟨Record.groupRecord, [⟨[.name "members"], .listType⟩]⟩)

/-- The member that a condition is, or a group that stands in place of its field. -/
def readCondition (field : Argument) (operator value : Value) : Work Member :=
  match field with
  | .group id => pure (.group id)
  | .condition c => do
    let _ ← check ((Operator.read operator).mapError Refusal.toFailure)
    let cause := Malformed.conditionAsField c.field c.operator c.value
    throw (cause.refusal .condition).toFailure
  | .value field => do
    let c ← check ((Condition.compose field operator value).mapError Refusal.toFailure)
    pure (.leaf c)

end Work

namespace Call

/-- A call write by write. -/
def work (call : Call) : Work Answer := do
  let s ← get
  match call with
  | .createGroup conjunction =>
    let known ← Work.check ((Conjunction.read conjunction).mapError Refusal.toFailure)
    let id ← Work.create known
    pure (.group id)
  | .createFilled conjunction members =>
    let known ← Work.check ((Conjunction.read conjunction).mapError (Session.refusedGroup · members))
    let id ← Work.create known
    let members ← Work.readMembers members
    Work.setMembers id members
    pure (.group id)
  | .readGroup document =>
    let id ← Work.readDocument document
    pure (.group id)
  | .condition on field operator value =>
    let m ← Work.readCondition field operator value
    Work.put (s.target on) m
    pure .done
  | .add on member =>
    let m ← Work.check (Session.memberOf member)
    Work.put (s.target on) m
    pure .done
  | .setMembers on members =>
    let members ← Work.readMembers members
    Work.setMembers (s.target on) members
    pure .done
  | .sort field direction =>
    let order ← Work.check (Query.orderOf field direction)
    Work.direct fun q => { q with orders := q.orders ++ [order] }
    pure .done
  | .range start length =>
    let window ← Work.check (Query.windowOf start length)
    Work.direct fun q => { q with window }
    pure .done
  | .count value =>
    Work.direct fun q => q.setCount value
    pure .done
  | .setConjunction .. | .setAttribute .. | .compile | .fetch | .execute | .executeClosing | .close =>
    set (s.perform call).1
    Work.check (s.perform call).2.result

end Call

namespace Session

/-- Another session has the groups of this one, but perhaps for some of them, and the same query. -/
structure SameBut (touched : GroupId → Prop) (s changed : Session) : Prop where
  cells : ∀ id < s.groups.cells.length, ¬ touched id → changed.groups.cell? id = s.groups.cell? id
  grown : s.groups.cells.length ≤ changed.groups.cells.length
  query : changed.query = s.query

variable {touched : GroupId → Prop} {s later last : Session} {id : GroupId}

theorem SameBut.refl : s.SameBut touched s :=
  ⟨fun _ _ _ => rfl, Nat.le_refl _, rfl⟩

theorem SameBut.trans (first : s.SameBut touched later) (second : later.SameBut touched last) :
    s.SameBut touched last where
  cells id there other :=
    (second.cells id (Nat.lt_of_lt_of_le there first.grown) other).trans (first.cells id there other)
  grown := Nat.le_trans first.grown second.grown
  query := second.query.trans first.query

theorem SameBut.of_new (new : s.groups.cells.length ≤ id) (same : s.SameBut (· = id) later) :
    s.SameBut touched later :=
  ⟨fun _ there _ => same.cells _ there (Nat.ne_of_lt (Nat.lt_of_lt_of_le there new)),
    same.grown, same.query⟩

theorem SameBut.mono {more : GroupId → Prop} (same : s.SameBut touched later)
    (imp : ∀ id, touched id → more id) : s.SameBut more later :=
  ⟨fun id there other => same.cells id there fun fewer => other (imp id fewer),
    same.grown, same.query⟩

end Session

namespace Work

variable {α β : Type} {touched : GroupId → Prop} {id : GroupId} {w : Work α} {next : α → Work β}

/-- The session that work leaves, also where it fails. -/
def leaves (w : Work α) (s : Session) : Session :=
  match w s with
  | .ok _ later => later
  | .error _ later => later

/-- The groups that are there are left as they are by work, but perhaps for some of them, and so is the
query. -/
def WritesOnly (touched : GroupId → Prop) (w : Work α) : Prop :=
  ∀ s : Session, s.SameBut touched (w.leaves s)

/-- No group that is there is written to, nor the query. -/
abbrev Reads (w : Work α) : Prop :=
  w.WritesOnly fun _ => False

theorem bind_apply {s : Session} : (w >>= next) s = match w s with
    | .ok a later => next a later
    | .error failure later => .error failure later := by
  change EStateM.bind w next s = _
  unfold EStateM.bind
  cases w s <;> rfl

theorem bind_ok {s later : Session} {a : α} (ran : w s = .ok a later) : (w >>= next) s = next a later := by
  rw [bind_apply, ran]

theorem bind_error {s left : Session} {failure : Failure} (ran : w s = .error failure left) :
    (w >>= next) s = .error failure left := by
  rw [bind_apply, ran]

theorem writesOnly_pure {a : α} : (pure a : Work α).WritesOnly touched :=
  fun _ => .refl

theorem writesOnly_throw {failure : Failure} : (throw failure : Work α).WritesOnly touched :=
  fun _ => .refl

theorem writesOnly_check {result : Except Failure α} : (check result).WritesOnly touched := by
  cases result with
  | ok a => exact writesOnly_pure
  | error failure => exact writesOnly_throw

theorem WritesOnly.mono {more : GroupId → Prop} (only : w.WritesOnly touched)
    (imp : ∀ id, touched id → more id) : w.WritesOnly more :=
  fun s => (only s).mono imp

theorem WritesOnly.of_ok {s later : Session} {a : α} (only : w.WritesOnly touched)
    (ran : w s = .ok a later) : s.SameBut touched later := by
  have known := only s
  unfold leaves at known
  rw [ran] at known
  exact known

theorem WritesOnly.of_error {s left : Session} {failure : Failure} (only : w.WritesOnly touched)
    (ran : w s = .error failure left) : s.SameBut touched left := by
  have known := only s
  unfold leaves at known
  rw [ran] at known
  exact known

theorem WritesOnly.bind (first : w.WritesOnly touched) (second : ∀ a, (next a).WritesOnly touched) :
    (w >>= next).WritesOnly touched := by
  intro s
  unfold leaves
  cases ran : w s with
  | error failure left =>
    rw [bind_error ran]
    exact first.of_error ran
  | ok a later =>
    rw [bind_ok ran]
    exact (first.of_ok ran).trans (second a later)

theorem reads_get : (get : Work Session).Reads :=
  fun _ => .refl

theorem writesOnly_create {conjunction : Conjunction} : (create conjunction).WritesOnly touched :=
  fun _ => ⟨fun _ there _ => List.getElem?_append_left there, (List.prefix_append _ _).length_le, rfl⟩

theorem writesOnly_store {t : Tree} : (store t).WritesOnly touched := by
  intro s
  have growth : s.groups.cells <+: (s.groups.insert t).1.cells := Store.prefix_insert
  refine ⟨fun id there _ => ?_, growth.length_le, rfl⟩
  have found : s.groups.cell? id = some _ := List.getElem?_eq_getElem there
  rw [found]
  exact Store.cell?_of_growth growth found

theorem writesOnly_setMembers {members : List Member} : (setMembers id members).WritesOnly (· = id) :=
  fun _ => ⟨fun _ _ other => Store.cell?_setMembers.trans (if_neg other),
    Store.length_setMembers.ge, rfl⟩

theorem writesOnly_put {m : Member} : (put id m).WritesOnly (· = id) :=
  writesOnly_check.bind fun _ => .bind (fun _ => .refl) fun _ => writesOnly_setMembers

/-- A group that is created may be written to in what follows. -/
theorem reads_of_open {path : Path} {entries : List (Value × Value)} {next : GroupId → Work β}
    (follows : ∀ id, (next id).WritesOnly (· = id)) : (openGroup path entries >>= next).Reads := by
  intro s
  unfold openGroup leaves
  cases Document.header path entries with
  | error refusal => exact .refl
  | ok conjunction =>
    have writes : (create conjunction).WritesOnly (· = s.groups.cells.length) := writesOnly_create
    have made := writes s
    exact .of_new (Nat.le_refl _) (made.trans (follows _ _))

theorem reads_readLeaf {path : Path} {entries : List (Value × Value)} : (readLeaf path entries).Reads := by
  unfold readLeaf
  split
  · exact writesOnly_throw
  · exact writesOnly_check.bind fun _ => writesOnly_pure

theorem fill_eq_elim {path : Path} {entries : List (Value × Value)} : fill path id entries =
    (Value.lookup? Document.conditionsKey entries).elim (pure ()) (fillMembers path id) := by
  induction entries with
  | nil => rfl
  | cons first rest ih =>
    obtain ⟨key, value⟩ := first
    cases key with
    | text name =>
      by_cases same : name = Document.conditionsKey
      · subst same
        simp [fill, fillListed?]
      · rw [Value.lookup?_cons_ne (by simpa using same)]
        simpa [fill, fillListed?, same] using ih
    | _ =>
      rw [Value.lookup?_cons_ne (by simp)]
      simpa [fill, fillListed?] using ih

theorem fill_of_items? {path : Path} {entries : List (Value × Value)} {items : List Value}
    (listed : Document.items? entries = some items) :
    fill path id entries = fillItems path id 0 items := by
  rw [fill_eq_elim]
  rcases Document.items?_eq_some_iff.mp listed with ⟨absent, rfl⟩ | found
  · rw [absent]
    rfl
  · rw [found]
    rfl

theorem readEntry_group {path : Path} {entries : List (Value × Value)}
    (keyed : Document.isGroup entries = true) :
    readEntry path (.map entries) = readGroup path entries >>= fun id => pure (.group id) := by
  rw [readEntry, if_pos keyed, readGroup]
  simp only [bind_assoc, pure_bind]

theorem readEntry_leaf {path : Path} {entries : List (Value × Value)}
    (single : Document.isGroup entries = false) : readEntry path (.map entries) = readLeaf path entries := by
  rw [readEntry, if_neg (by simp [single])]

theorem writesOnly_fillItems {items : List Value} {path : Path} {index : Nat}
    (each : ∀ item ∈ items, ∀ path, (readEntry path item).Reads) :
    (fillItems path id index items).WritesOnly (· = id) := by
  induction items generalizing index with
  | nil => exact writesOnly_pure
  | cons item rest ih =>
    have first : (readEntry (path ++ [index]) item).WritesOnly (· = id) :=
      (each item List.mem_cons_self _).mono fun _ => False.elim
    exact first.bind fun _ => writesOnly_put.bind fun _ =>
      ih fun other member => each other (List.mem_cons_of_mem _ member)

private theorem reads_readGroup_of_items {path : Path} {entries : List (Value × Value)}
    (each : ∀ items, Document.items? entries = some items →
      ∀ item ∈ items, ∀ path, (readEntry path item).Reads) : (readGroup path entries).Reads := by
  refine reads_of_open fun id => .bind ?_ fun _ => writesOnly_pure
  cases listed : Document.items? entries with
  | some items =>
    rw [fill_of_items? listed]
    exact writesOnly_fillItems (each items listed)
  | none =>
    rw [fill_eq_elim]
    unfold Document.items? at listed
    cases found : Value.lookup? Document.conditionsKey entries with
    | none => exact writesOnly_pure
    | some value =>
      cases value with
      | list items => simp [found] at listed
      | _ => exact writesOnly_throw

theorem reads_readEntry (document : Value) : ∀ path, (readEntry path document).Reads := by
  induction document using Document.induct with
  | step document ih =>
    intro path
    cases document with
    | map entries =>
      cases kind : Document.isGroup entries with
      | true =>
        rw [readEntry_group kind]
        exact (reads_readGroup_of_items fun items => ih entries items rfl).bind fun _ => writesOnly_pure
      | false =>
        rw [readEntry_leaf kind]
        exact reads_readLeaf
    | _ => exact writesOnly_throw

theorem reads_readGroup {path : Path} {entries : List (Value × Value)} : (readGroup path entries).Reads :=
  reads_readGroup_of_items fun _ _ item _ => reads_readEntry item

theorem reads_readDocument {document : Value} : (readDocument document).Reads := by
  cases document with
  | map entries => exact reads_readGroup
  | _ => exact writesOnly_throw

theorem reads_readItem {index : Nat} {item : Argument} : (readItem index item).Reads := by
  unfold readItem
  split
  · exact writesOnly_pure
  · exact writesOnly_store.bind fun _ => writesOnly_pure
  · exact writesOnly_pure
  · exact writesOnly_throw

theorem reads_readItems {items : List Argument} {index : Nat} : (readItems index items).Reads := by
  induction items generalizing index with
  | nil => exact writesOnly_pure
  | cons item rest ih => exact reads_readItem.bind fun _ => ih.bind fun _ => writesOnly_pure

theorem reads_readMembers {members : MemberList} : (readMembers members).Reads := by
  cases members with
  | items items => exact reads_readItems.bind fun _ => writesOnly_check
  | other v => exact writesOnly_throw

theorem reads_readCondition {field : Argument} {operator value : Value} :
    (readCondition field operator value).Reads := by
  cases field with
  | group id => exact writesOnly_pure
  | condition c => exact writesOnly_check.bind fun _ => writesOnly_throw
  | value field => exact writesOnly_check.bind fun _ => writesOnly_pure

/-- Work that cannot fail. -/
def Completes (w : Work α) : Prop :=
  ∀ s, ∃ a later, w s = .ok a later

theorem Completes.bind (first : w.Completes) (second : ∀ a, (next a).Completes) :
    (w >>= next).Completes := by
  intro s
  obtain ⟨a, later, ran⟩ := first s
  rw [bind_apply, ran]
  exact second a later

theorem completes_pure {a : α} : (pure a : Work α).Completes :=
  fun s => ⟨a, s, rfl⟩

theorem completes_setMembers {members : List Member} : (setMembers id members).Completes :=
  fun _ => ⟨(), _, rfl⟩

theorem completes_direct {change : Query → Query} : (direct change).Completes :=
  fun _ => ⟨(), _, rfl⟩

/-- Where work fails, no group that was there was written to, nor the query. -/
def Atomic (w : Work α) : Prop :=
  ∀ s failure left, w s = .error failure left → Session.SameBut (fun _ => False) s left

theorem Completes.atomic (completes : w.Completes) : w.Atomic := by
  intro s failure left failed
  obtain ⟨a, later, done⟩ := completes s
  cases done.symm.trans failed

/-- What only reads may come before what fails without a trace. -/
theorem WritesOnly.andThen (reads : w.Reads) (second : ∀ a, (next a).Atomic) : (w >>= next).Atomic := by
  intro s failure left failed
  cases ran : w s with
  | error other later =>
    rw [bind_error ran] at failed
    cases failed
    exact reads.of_error ran
  | ok a later =>
    rw [bind_ok ran] at failed
    exact (reads.of_ok ran).trans (second a later failure left failed)

/-- What cannot fail may come behind. -/
theorem Atomic.before (first : w.Atomic) (second : ∀ a, (next a).Completes) : (w >>= next).Atomic := by
  intro s failure left failed
  cases ran : w s with
  | error other later =>
    rw [bind_error ran] at failed
    cases failed
    exact first s failure left ran
  | ok a later =>
    rw [bind_ok ran] at failed
    obtain ⟨b, last, done⟩ := second a later
    cases done.symm.trans failed

theorem atomic_put {m : Member} : (put id m).Atomic :=
  writesOnly_check.andThen fun _ => reads_get.andThen fun _ => completes_setMembers.atomic

/-- Work on a session, and what it gives if it succeeds. -/
def outcome (w : Work α) (s : Session) : Except Failure (α × Session) :=
  match w s with
  | .ok a later => .ok (a, later)
  | .error failure _ => .error failure

theorem outcome_bind {s : Session} :
    (w >>= next).outcome s = w.outcome s >>= fun reached => (next reached.1).outcome reached.2 := by
  unfold outcome
  rw [bind_apply]
  cases w s <;> rfl

end Work

end SearchFilter
