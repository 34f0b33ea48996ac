import SearchFilter.Proofs.Session.Work
import SearchFilter.Proofs.Store.Frame

/-!
Calls that fail. Done write by write, a call comes to the same end as when it is performed; if it fails,
no group that was there has been written to, nor the query, so the query compiles as before.
-/

namespace SearchFilter

namespace Work

variable {s : Session} {on : Option GroupId} {id : GroupId} {m : Member} {cell : Cell} {path : Path}
  {index : Nat} {item : Argument} {items : List Argument} {members : MemberList}

@[simp] theorem outcome_check {α : Type} (result : Except Failure α) :
    (check result).outcome s = result.map (·, s) := by
  cases result <;> rfl

@[simp] theorem outcome_get : (get : Work Session).outcome s = .ok (s, s) := rfl

@[simp] theorem outcome_set (later : Session) : (set later : Work PUnit).outcome s = .ok (⟨⟩, later) := rfl

@[simp] theorem outcome_create (conjunction : Conjunction) : (create conjunction).outcome s =
    .ok (s.groups.cells.length, { s with groups := (s.groups.create ⟨conjunction, []⟩).1 }) := rfl

/-- Putting a member into a group is one check and one write. -/
theorem put_apply (found : s.groups.cell? id = some cell) : put id m s =
    match refuseItself id m with
    | .ok _ => .ok () { s with groups := s.groups.setMembers id (cell.members ++ [m]) }
    | .error failure => .error failure s := by
  have members : ((s.groups.cell? id).map Cell.members).getD [] = cell.members := by simp [found]
  unfold put
  rw [← members]
  cases refuseItself id m <;> rfl

theorem put_of_ne (found : s.groups.cell? id = some cell) (other : m ≠ .group id) :
    put id m s = .ok () { s with groups := s.groups.setMembers id (cell.members ++ [m]) } := by
  have accepted : refuseItself id m = .ok () := by
    cases m with
    | leaf c => rfl
    | group inner => exact if_neg fun same => other (congrArg Member.group same)
  rw [put_apply found, accepted]

theorem addMember_eq (found : s.groups.cell? (s.target on) = some cell) : s.addMember on m =
    ((put (s.target on) m).outcome s).map Prod.snd := by
  rw [outcome, put_apply found, Session.addMember]
  cases m with
  | leaf c => simp [Store.add, found, refuseItself]
  | group inner => by_cases same : inner = s.target on <;> simp [Store.add, found, refuseItself, same]

theorem readItem_ok {p : Session.Pending}
    (accepted : (Session.pendingOf item).inside (.index index) = .ok p) :
    ∃ m groups, readItem index item s = .ok (.ok m) { s with groups } ∧ ∀ pending,
      Session.settle s.groups (p :: pending) =
        ((Session.settle groups pending).1, m :: (Session.settle groups pending).2) := by
  unfold readItem
  rw [accepted]
  cases p with
  | member m => exact ⟨m, s.groups, rfl, fun _ => rfl⟩
  | tree t => exact ⟨(s.groups.insert t).2, (s.groups.insert t).1, rfl, fun _ => rfl⟩

/-- Items are read as they are checked and then settled, if all of them are accepted; and else they are
refused for the same reason. -/
theorem readItems_eq (items : List Argument) (index : Nat) (s : Session) :
    match Session.pendingFrom index items with
    | .ok pending => readItems index items s = .ok (.ok (Session.settle s.groups pending).2)
        { s with groups := (Session.settle s.groups pending).1 }
    | .faults details => ∃ left, readItems index items s = .ok (.error details) left
    | .stopped failure => ∃ left, readItems index items s = .error failure left := by
  induction items generalizing index s with
  | nil => rfl
  | cons item rest ih =>
    have joined : Session.pendingFrom index (item :: rest) = List.cons <$>
        (Session.pendingOf item).inside (.index index) <*> Session.pendingFrom (index + 1) rest := rfl
    have steps : readItems index (item :: rest) = readItem index item >>= fun first =>
        readItems (index + 1) rest >>= fun later => pure (gather first later) := rfl
    rw [joined, steps]
    cases head : (Session.pendingOf item).inside (.index index) with
    | stopped failure =>
      have first : readItem index item s = .error failure s := by
        simp only [readItem, head]
        rfl
      exact ⟨s, bind_error first⟩
    | faults details =>
      have first : readItem index item s = .ok (.error details) s := by
        simp only [readItem, head]
        rfl
      have tail := ih (index + 1) s
      cases read : Session.pendingFrom (index + 1) rest with
      | stopped failure =>
        rw [read] at tail
        obtain ⟨left, later⟩ := tail
        exact ⟨left, (bind_ok first).trans (bind_error later)⟩
      | faults more =>
        rw [read] at tail
        obtain ⟨left, later⟩ := tail
        exact ⟨left, (bind_ok first).trans (bind_ok later)⟩
      | ok pending =>
        rw [read] at tail
        exact ⟨_, (bind_ok first).trans (bind_ok tail)⟩
    | ok p =>
      obtain ⟨m, groups, first, settled⟩ := readItem_ok (s := s) head
      have tail := ih (index + 1) { s with groups }
      cases read : Session.pendingFrom (index + 1) rest with
      | stopped failure =>
        rw [read] at tail
        obtain ⟨left, later⟩ := tail
        exact ⟨left, (bind_ok first).trans (bind_error later)⟩
      | faults more =>
        rw [read] at tail
        obtain ⟨left, later⟩ := tail
        exact ⟨left, (bind_ok first).trans (bind_ok later)⟩
      | ok pending =>
        rw [read] at tail
        refine ((bind_ok first).trans (bind_ok tail)).trans ?_
        rw [settled]
        rfl

theorem assignMembers_eq : s.assignMembers on members =
    ((readMembers members).outcome s).map fun read =>
      { read.2 with groups := read.2.groups.setMembers (s.target on) read.1 } := by
  cases members with
  | other v => rfl
  | items items =>
    have read := readItems_eq items 0 s
    have steps : readMembers (.items items) = readItems 0 items >>= fun read => check (report read) := rfl
    rw [steps, Session.assignMembers, Session.pendingMembers, outcome]
    cases checked : Session.pendingFrom 0 items with
    | ok pending =>
      rw [checked] at read
      rw [bind_ok read]
      rfl
    | faults details =>
      rw [checked] at read
      obtain ⟨left, refused⟩ := read
      rw [bind_ok refused]
      rfl
    | stopped failure =>
      rw [checked] at read
      obtain ⟨left, refused⟩ := read
      rw [bind_error refused]
      rfl

/-- What work that reads an entry of a document comes to: the entry is refused as its tree is, or the
member stands for the tree by new groups. -/
def Describes (w : Work Member) (described : Except Refusal Tree) : Prop :=
  ∀ s : Session, match described with
    | .error refusal => ∃ left, w s = .error refusal.toFailure left
    | .ok t => ∃ m later, w s = .ok m later ∧ later.groups.DenotesFrom s.groups.cells.length m t

theorem Describes.of_ok {w : Work Member} {described : Except Refusal Tree} {t : Tree}
    (describes : Describes w described) (read : described = .ok t) (s : Session) :
    ∃ m later, w s = .ok m later ∧ later.groups.DenotesFrom s.groups.cells.length m t := by
  have known := describes s
  rw [read] at known
  exact known

theorem Describes.of_error {w : Work Member} {described : Except Refusal Tree} {refusal : Refusal}
    (describes : Describes w described) (refused : described = .error refusal) (s : Session) :
    ∃ left, w s = .error refusal.toFailure left := by
  have known := describes s
  rw [refused] at known
  exact known

theorem describes_readLeaf {entries : List (Value × Value)} :
    Describes (readLeaf path entries) (Document.leaf path entries) := by
  intro s
  unfold readLeaf
  cases found : Value.lookup? "field" entries with
  | none =>
    rw [Document.leaf_of_no_field found]
    exact ⟨s, rfl⟩
  | some field =>
    rw [Document.leaf_of_field found]
    simp only
    cases Condition.compose field (Document.given "operator" entries) (Document.given "value" entries) with
    | error refusal => exact ⟨s, rfl⟩
    | ok c => exact ⟨.leaf c, s, rfl, Store.denotesFrom_leaf⟩

/-- Items are put into a group one by one, as the trees that they describe, up to the first one that
is refused. -/
theorem fillItems_eq {items : List Value} {id : GroupId} {cell : Cell} {s : Session} (path : Path)
    (index : Nat) (each : ∀ item ∈ items, ∀ path, Describes (readEntry path item) (Document.entry path item))
    (found : s.groups.cell? id = some cell) :
    match Document.itemsFrom path index items with
    | .error refusal => ∃ left, fillItems path id index items s = .error refusal.toFailure left
    | .ok trees => ∃ members later, fillItems path id index items s = .ok () later ∧
        later.groups.cell? id = some { cell with members := cell.members ++ members } ∧
        List.Forall₂ (later.groups.DenotesFrom s.groups.cells.length) members trees := by
  induction items generalizing index s cell with
  | nil => exact ⟨[], s, rfl, by simpa using found, .nil⟩
  | cons item rest ih =>
    obtain ⟨head, tail⟩ := List.forall_mem_cons.mp each
    have describes := head (path ++ [index])
    have steps : fillItems path id index (item :: rest) = readEntry (path ++ [index]) item >>= fun m =>
        put id m >>= fun _ => fillItems path id (index + 1) rest := rfl
    have joined : Document.itemsFrom path index (item :: rest) =
        Document.entry (path ++ [index]) item >>= fun t =>
          Document.itemsFrom path (index + 1) rest >>= fun trees => .ok (t :: trees) := rfl
    rw [joined, steps]
    cases entered : Document.entry (path ++ [index]) item with
    | error refusal =>
      obtain ⟨left, refused⟩ := describes.of_error entered s
      exact ⟨left, bind_error refused⟩
    | ok t =>
      obtain ⟨m, next, read, shown⟩ := describes.of_ok entered s
      have there : id < s.groups.cells.length := (List.getElem?_eq_some_iff.mp found).1
      have same := (reads_readEntry item (path ++ [index])).of_ok read
      have still : next.groups.cell? id = some cell := (same.cells id there not_false).trans found
      -- the new member is a new group, if it is one
      have other : m ≠ .group id := fun own => Nat.not_lt_of_le (shown.1 id own) there
      have written := put_of_ne still other
      have larger : (next.groups.setMembers id (cell.members ++ [m])).cell? id =
          some { cell with members := cell.members ++ [m] } := by
        rw [Store.cell?_setMembers, if_pos rfl, still, Option.map_some]
      have follows := ih (s := { next with groups := next.groups.setMembers id (cell.members ++ [m]) })
        (index + 1) tail larger
      cases listed : Document.itemsFrom path (index + 1) rest with
      | error refusal =>
        rw [listed] at follows
        obtain ⟨left, refused⟩ := follows
        exact ⟨left, (bind_ok read).trans ((bind_ok written).trans refused)⟩
      | ok trees =>
        rw [listed] at follows
        obtain ⟨members, last, filled, gets, stand⟩ := follows
        refine ⟨m :: members, last, (bind_ok read).trans ((bind_ok written).trans filled), ?_, .cons ?_ ?_⟩
        · rw [gets, List.append_assoc, List.singleton_append]
        · -- what the member stands for is not touched by filling the group with the rest
          have after := (writesOnly_fillItems fun item _ => reads_readEntry item).of_ok filled
          refine shown.mono (Nat.le_refl _) fun deeper inside new held => ?_
          have apart : deeper ≠ id := Nat.ne_of_gt (Nat.lt_of_lt_of_le there new)
          have bound : deeper < (next.groups.setMembers id (cell.members ++ [m])).cells.length := by
            rw [Store.length_setMembers]
            exact (List.getElem?_eq_some_iff.mp held).1
          refine (after.cells deeper bound apart).trans ?_
          rw [Store.cell?_setMembers, if_neg apart, held]
        · refine stand.imp fun _ _ denotes => denotes.mono ?_ fun _ _ _ held => held
          rw [Store.length_setMembers]
          exact same.grown

theorem readGroup_eq (path : Path) (entries : List (Value × Value)) (s : Session)
    (each : ∀ items, Document.items? entries = some items → ∀ item ∈ items, ∀ path,
      Describes (readEntry path item) (Document.entry path item)) :
    match Document.group path entries with
    | .error refusal => ∃ left, readGroup path entries s = .error refusal.toFailure left
    | .ok g => ∃ later, readGroup path entries s = .ok s.groups.cells.length later ∧
        later.groups.DenotesFrom s.groups.cells.length (.group s.groups.cells.length) g.toTree := by
  unfold readGroup Document.group
  cases listed : Document.items? entries with
  | none =>
    have refused : (openGroup path entries) s =
        .error (.malformed (.conditionsNoList path)) s := by
      rw [openGroup, Document.header_of_no_items? listed]
      rfl
    rw [Document.header_of_no_items? listed]
    exact ⟨s, bind_error refused⟩
  | some items =>
    rw [Document.header_of_items? listed, Document.conditions_of_items? listed]
    cases known : Conjunction.read (Document.given Document.conjunctionKey entries) with
    | error refusal =>
      have refused : (openGroup path entries) s = .error refusal.toFailure s := by
        rw [openGroup, Document.header_of_items? listed, known]
        rfl
      exact ⟨s, bind_error refused⟩
    | ok conjunction =>
      have opened : (openGroup path entries) s = .ok s.groups.cells.length
          { s with groups := (s.groups.create ⟨conjunction, []⟩).1 } := by
        rw [openGroup, Document.header_of_items? listed, known]
        rfl
      have filled := fillItems_eq (s := { s with groups := (s.groups.create ⟨conjunction, []⟩).1 })
        path 0 (each items listed) Store.cell?_create
      have steps : fill path s.groups.cells.length entries =
          fillItems path s.groups.cells.length 0 items := fill_of_items? listed
      have ending : (openGroup path entries >>= fun id => fill path id entries >>= fun _ => pure id) s =
          _ := bind_ok opened
      rw [steps] at ending
      cases read : Document.itemsFrom path 0 items with
      | error refusal =>
        rw [read] at filled
        obtain ⟨left, refused⟩ := filled
        exact ⟨left, ending.trans (bind_error refused)⟩
      | ok trees =>
        rw [read] at filled
        obtain ⟨members, later, done, gets, stand⟩ := filled
        refine ⟨later, ending.trans (bind_ok done), Store.denotesFrom_group (g := ⟨conjunction, trees⟩)
          (Nat.le_refl _) gets rfl (stand.imp fun _ _ shown => ?_)⟩
        exact shown.mono (List.prefix_append _ _).length_le fun _ _ _ held => held

theorem describes_readEntry (document : Value) :
    ∀ path, Describes (readEntry path document) (Document.entry path document) := by
  induction document using Document.induct with
  | step document ih =>
    intro path
    cases document with
    | map entries =>
      cases kind : Document.isGroup entries with
      | true =>
        rw [readEntry_group kind, Document.entry_group kind]
        intro s
        have made := readGroup_eq path entries s fun items => ih entries items rfl
        cases described : Document.group path entries with
        | error refusal =>
          rw [described] at made
          obtain ⟨left, refused⟩ := made
          exact ⟨left, bind_error refused⟩
        | ok g =>
          rw [described] at made
          obtain ⟨later, done, shown⟩ := made
          exact ⟨_, later, bind_ok done, shown⟩
      | false =>
        rw [readEntry_leaf kind, Document.entry_leaf kind]
        exact describes_readLeaf
    | _ => exact fun s => ⟨s, rfl⟩

theorem readDocument_eq (document : Value) (s : Session) :
    match Group.ofDocument document with
    | .error refusal => ∃ left, readDocument document s = .error refusal.toFailure left
    | .ok g => ∃ later, readDocument document s = .ok s.groups.cells.length later ∧
        later.groups.tree? s.groups.cells.length = some g := by
  cases document with
  | map entries =>
    have made := readGroup_eq [] entries s fun _ _ item _ => describes_readEntry item
    have same : Group.ofDocument (.map entries) = Document.group [] entries := rfl
    rw [same]
    cases described : Document.group [] entries with
    | error refusal =>
      rw [described] at made
      exact made
    | ok g =>
      rw [described] at made
      obtain ⟨later, done, shown⟩ := made
      exact ⟨later, done, Store.tree?_eq_some_iff.mpr shown.denotes⟩
  | _ => exact ⟨s, rfl⟩

end Work

namespace Session

variable {s left : Session} {call : Call} {failure : Failure}

private theorem sameBut_of_performed (groups : (s.perform call).1.groups = s.groups)
    (query : (s.perform call).1.query = s.query)
    (whole : call.work s =
      ((do set (s.perform call).1; Work.check (s.perform call).2.result) : Work Answer) s)
    (failed : call.work s = .error failure left) : s.SameBut (fun _ => False) left := by
  rw [whole] at failed
  have ended : left = (s.perform call).1 := by
    cases ran : (s.perform call).2.result with
    | ok answer =>
      rw [ran] at failed
      cases failed
    | error other =>
      rw [ran] at failed
      cases failed
      rfl
  subst ended
  exact ⟨fun id _ _ => congrArg (Store.cell? · id) groups, (congrArg (·.cells.length) groups).ge, query⟩

/-- Where the work of a call fails, no group that was there has been written to, nor the query: all that
comes before its one write only reads, and nothing behind it fails. -/
theorem sameBut_of_work (failed : call.work s = .error failure left) :
    s.SameBut (fun _ => False) left := by
  have ending : ∀ a : Answer, (pure a : Work Answer).Completes := fun _ => Work.completes_pure
  cases call with
  | createGroup conjunction =>
    have atomic : (Call.createGroup conjunction).work.Atomic :=
      Work.reads_get.andThen fun _ => Work.writesOnly_check.andThen fun _ =>
        Work.writesOnly_create.andThen fun _ => (ending _).atomic
    exact atomic s failure left failed
  | createFilled conjunction members =>
    have atomic : (Call.createFilled conjunction members).work.Atomic :=
      Work.reads_get.andThen fun _ => Work.writesOnly_check.andThen fun _ =>
        Work.writesOnly_create.andThen fun _ => Work.reads_readMembers.andThen fun _ =>
          (Work.completes_setMembers.bind fun _ => ending _).atomic
    exact atomic s failure left failed
  | readGroup document =>
    have atomic : (Call.readGroup document).work.Atomic :=
      Work.reads_get.andThen fun _ => Work.reads_readDocument.andThen fun _ => (ending _).atomic
    exact atomic s failure left failed
  | condition on field operator value =>
    have atomic : (Call.condition on field operator value).work.Atomic :=
      Work.reads_get.andThen fun _ => Work.reads_readCondition.andThen fun _ =>
        Work.atomic_put.before fun _ => ending _
    exact atomic s failure left failed
  | add on member =>
    have atomic : (Call.add on member).work.Atomic :=
      Work.reads_get.andThen fun _ => Work.writesOnly_check.andThen fun _ =>
        Work.atomic_put.before fun _ => ending _
    exact atomic s failure left failed
  | setMembers on members =>
    have atomic : (Call.setMembers on members).work.Atomic :=
      Work.reads_get.andThen fun _ => Work.reads_readMembers.andThen fun _ =>
        (Work.completes_setMembers.bind fun _ => ending _).atomic
    exact atomic s failure left failed
  | sort field direction =>
    have atomic : (Call.sort field direction).work.Atomic :=
      Work.reads_get.andThen fun _ => Work.writesOnly_check.andThen fun _ =>
        (Work.completes_direct.bind fun _ => ending _).atomic
    exact atomic s failure left failed
  | range start length =>
    have atomic : (Call.range start length).work.Atomic :=
      Work.reads_get.andThen fun _ => Work.writesOnly_check.andThen fun _ =>
        (Work.completes_direct.bind fun _ => ending _).atomic
    exact atomic s failure left failed
  | count value =>
    have atomic : (Call.count value).work.Atomic :=
      Work.reads_get.andThen fun _ => (Work.completes_direct.bind fun _ => ending _).atomic
    exact atomic s failure left failed
  | setConjunction | setAttribute | compile | fetch | execute | executeClosing | close =>
    exact sameBut_of_performed rfl rfl rfl failed

private theorem outcome_change (result : Except Failure Session) :
    ((s.change result).2.result.map fun answer => (answer, (s.change result).1)) =
      result.map fun changed => (.done, changed) := by
  cases result <;> rfl

private theorem outcome_addition {on : Option GroupId} {m : Member} {cell : Cell}
    (found : s.groups.cell? (s.target on) = some cell) :
    (Work.put (s.target on) m >>= fun _ => (pure .done : Work Answer)).outcome s =
      (s.addMember on m).map fun changed => (.done, changed) := by
  rw [Work.addMember_eq found, Work.outcome_bind]
  cases (Work.put (s.target on) m).outcome s <;> rfl

/-- Done write by write, a call comes to the same end as when it is performed, but for the numbers of the
groups of a document. -/
theorem outcome_work (grounded : s.Grounded) (present : s.Present call)
    (other : ∀ document, call ≠ .readGroup document) : call.work.outcome s =
      (s.perform call).2.result.map fun answer => (answer, (s.perform call).1) := by
  cases call with
  | createGroup conjunction =>
    simp only [Call.work, Work.outcome_bind, Work.outcome_get, Work.outcome_check, perform]
    cases Conjunction.read conjunction <;> rfl
  | createFilled conjunction members =>
    have performed : ((s.perform (.createFilled conjunction members)).2.result.map fun answer =>
        (answer, (s.perform (.createFilled conjunction members)).1)) =
          (s.createFilled conjunction members).map fun made => (.group made.2, made.1) := by
      cases created : s.createFilled conjunction members <;> simp [perform, created]
    rw [performed, createFilled]
    simp only [Call.work, Work.outcome_bind, Work.outcome_get, Result.ok_bind, Work.outcome_check]
    cases Conjunction.read conjunction with
    | error cause => rfl
    | ok known =>
      simp only [Work.assignMembers_eq, Result.mapError_ok, Result.map_ok, Result.ok_bind,
        Work.outcome_create]
      cases (Work.readMembers members).outcome { s with groups := (s.groups.create ⟨known, []⟩).1 } <;> rfl
  | readGroup document => exact absurd rfl (other document)
  | condition on field operator value =>
    have found : s.groups.cell? (s.target on) = some _ := List.getElem?_eq_getElem
      (grounded.target (List.forall_mem_append.mp present).1)
    have performed : s.perform (.condition on field operator value) =
        s.change (s.addCondition on field operator value) := rfl
    rw [performed, outcome_change]
    cases field with
    | group id => exact outcome_addition found
    | condition c =>
      simp only [Call.work, Work.outcome_bind, Work.outcome_get, Result.ok_bind, Work.readCondition,
        Work.outcome_check, addCondition]
      cases Operator.read operator <;> rfl
    | value field =>
      simp only [Call.work, Work.outcome_bind, Work.outcome_get, Result.ok_bind, Work.readCondition,
        Work.outcome_check, addCondition]
      cases Condition.compose field operator value with
      | error refusal => rfl
      | ok c => exact outcome_addition (m := .leaf c) found
  | add on member =>
    have found : s.groups.cell? (s.target on) = some _ := List.getElem?_eq_getElem
      (grounded.target (List.forall_mem_append.mp present).1)
    have performed : s.perform (.add on member) =
        s.change ((memberOf member).bind (s.addMember on)) := rfl
    rw [performed, outcome_change]
    cases member with
    | value v => rfl
    | group id => exact outcome_addition (m := .group id) found
    | condition c => exact outcome_addition (m := .leaf c) found
  | setMembers on members =>
    have performed : s.perform (.setMembers on members) = s.change (s.assignMembers on members) := rfl
    rw [performed, outcome_change, Work.assignMembers_eq]
    simp only [Call.work, Work.outcome_bind, Work.outcome_get, Result.ok_bind]
    cases (Work.readMembers members).outcome s <;> rfl
  | sort field direction =>
    have performed : s.perform (.sort field direction) =
        s.change ((s.query.sort field direction).map fun query => { s with query }) := rfl
    rw [performed, outcome_change, Query.sort_eq_map]
    simp only [Call.work, Work.outcome_bind, Work.outcome_get, Result.ok_bind, Work.outcome_check]
    cases Query.orderOf field direction <;> rfl
  | range start length =>
    have performed : s.perform (.range start length) =
        s.change ((s.query.range start length).map fun query => { s with query }) := rfl
    rw [performed, outcome_change, Query.range_eq_map]
    simp only [Call.work, Work.outcome_bind, Work.outcome_get, Result.ok_bind, Work.outcome_check]
    cases Query.windowOf start length <;> rfl
  | count value => rfl
  | setConjunction | setAttribute | compile | fetch | execute | executeClosing | close =>
    simp only [Call.work, Work.outcome_bind, Work.outcome_get, Result.ok_bind, Work.outcome_set,
      Work.outcome_check]

theorem work_readGroup (document : Value) (s : Session) :
    match Group.ofDocument document with
    | .error refusal => ∃ left, (Call.readGroup document).work s = .error refusal.toFailure left
    | .ok g => ∃ later, (Call.readGroup document).work s = .ok (.group s.groups.cells.length) later ∧
        s.SameBut (fun _ => False) later ∧ later.groups.tree? s.groups.cells.length = some g := by
  have read := Work.readDocument_eq document s
  cases described : Group.ofDocument document with
  | error refusal =>
    rw [described] at read
    obtain ⟨left, refused⟩ := read
    exact ⟨left, (Work.bind_ok rfl).trans (Work.bind_error refused)⟩
  | ok g =>
    rw [described] at read
    obtain ⟨later, done, tree⟩ := read
    exact ⟨later, (Work.bind_ok rfl).trans (Work.bind_ok done), Work.reads_readDocument.of_ok done, tree⟩

theorem exists_work_of_failed (grounded : s.Grounded) (present : s.Present call)
    (failed : (s.perform call).2.result = .error failure) : ∃ left, call.work s = .error failure left := by
  by_cases reading : ∃ document, call = .readGroup document
  · obtain ⟨document, rfl⟩ := reading
    have read := work_readGroup document s
    cases described : Group.ofDocument document with
    | error refusal =>
      rw [described] at read
      simp only [perform, described] at failed
      cases failed
      exact read
    | ok g =>
      simp only [perform, described] at failed
      cases failed
  · have ended := outcome_work grounded present fun document same => reading ⟨document, same⟩
    rw [failed, Result.map_error, Work.outcome] at ended
    cases ran : call.work s with
    | ok answer later =>
      rw [ran] at ended
      cases ended
    | error other left =>
      rw [ran] at ended
      cases ended
      exact ⟨left, rfl⟩

private theorem compile_of_request
    (same : left.query.request left.groups = s.query.request s.groups) :
    (left.perform .compile).2 = (s.perform .compile).2 := by
  unfold perform
  rw [same]

/-- The query compiles as before, if no group that was there is another, nor the query. -/
theorem compile_of_sameBut (grounded : s.Grounded) (same : s.SameBut (fun _ => False) left) :
    (left.perform .compile).2 = (s.perform .compile).2 := by
  have agree : s.groups.AgreeBelow left.groups s.query.root := fun inner path =>
    same.cells inner (Store.lt_of_reaches grounded.closed grounded.rooted path) not_false
  refine compile_of_request ?_
  rw [same.query, Query.request, Query.request, agree.tree?_eq]

/-- A call that fails leaves the groups, the orders of hits, the window and the choice between counting and
searching as they were, so the query compiles as before. This is so at every write: when the failure comes,
no group that was there has been written to. -/
theorem failed_call_leaves_no_trace (attained : s.Attained) (present : s.Present call)
    (failed : (s.perform call).2.result = .error failure) :
    (s.perform call).1.groups = s.groups ∧ (s.perform call).1.query = s.query ∧
    ((s.perform call).1.perform .compile).2 = (s.perform .compile).2 ∧
    ∃ left, call.work s = .error failure left ∧ s.SameBut (fun _ => False) left ∧
      (left.perform .compile).2 = (s.perform .compile).2 := by
  have refused : s.succeeds call = false := by
    rw [succeeds, failed]
    rfl
  have groups := groups_of_failed refused
  have query : (s.perform call).1.query = s.query := by
    rw [query_perform, completed, if_neg (by simp [refused]), Query.after_nil]
  obtain ⟨left, ran⟩ := exists_work_of_failed attained.grounded present failed
  have same := sameBut_of_work ran
  refine ⟨groups, query, compile_of_request ?_, left, ran, same,
    compile_of_sameBut attained.grounded same⟩
  rw [groups, query]

/-- A document with a good condition, and a group whose second condition is refused. -/
def halfDocument : Value :=
  .ofFields [("conditions", .list [.ofFields [("field", .text "title"), ("value", .int 1)],
    .ofFields [("conditions", .list [.ofFields [("field", .text "body"), ("value", .int 2)],
      .ofFields [("field", .text "status"), ("operator", .operator .isIn), ("value", .list [])]])]])]

theorem failed_call_leaves_no_trace_document :
    ((overNodes.run sharedCalls).perform (.readGroup halfDocument)).2.result =
      .error (.malformed (.takesMember .isIn (.text "status"))) ∧
    ((overNodes.run sharedCalls).perform (.readGroup halfDocument)).1.groups =
      (overNodes.run sharedCalls).groups ∧
    ∃ left, (Call.readGroup halfDocument).work (overNodes.run sharedCalls) =
      .error (.malformed (.takesMember .isIn (.text "status"))) left ∧
      left.groups.cells.length = (overNodes.run sharedCalls).groups.cells.length + 2 ∧
      (left.perform .compile).2 = ((overNodes.run sharedCalls).perform .compile).2 := by
  have described : Group.ofDocument halfDocument =
      .error (.malformed (.takesMember .isIn (.text "status"))) := rfl
  have refused : ((overNodes.run sharedCalls).perform (.readGroup halfDocument)).2.result =
      .error (.malformed (.takesMember .isIn (.text "status"))) := by
    simp only [perform, described]
    rfl
  have grown : (((Call.readGroup halfDocument).work).leaves (overNodes.run sharedCalls)).groups.cells.length
      = (overNodes.run sharedCalls).groups.cells.length + 2 := rfl
  obtain ⟨groups, _, _, left, ran, _, compiles⟩ :=
    failed_call_leaves_no_trace attained_run_shared (by simp [Present, Call.named]) refused
  rw [Work.leaves, ran] at grown
  exact ⟨refused, groups, left, ran, grown, compiles⟩

end Session

end SearchFilter
