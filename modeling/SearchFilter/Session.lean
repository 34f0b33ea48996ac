import SearchFilter.Execution
import SearchFilter.Tree.Document

/-!
Sessions: a query, the groups that are shared between it and its caller, a client, and the calls
that change or run them. A call that fails leaves groups and directives as they were.
-/

namespace SearchFilter

/-- An argument where a group may stand: a plain value, a group of the store, or a condition. -/
inductive Argument
  | value (v : Value)
  | group (id : GroupId)
  | condition (c : Condition)
  deriving Repr

/-- The members that a group is to have: some, or a value that lists none. -/
inductive MemberList
  | items (items : List Argument)
  | other (v : Value)
  deriving Repr

/-- The members that a value lists. -/
def MemberList.ofValue : Value → MemberList
  | .list values | .tuple values | .set values => .items (values.map .value)
  | v => .other v

inductive Call
  | createGroup (conjunction : Value)
  | createFilled (conjunction : Value) (members : MemberList)
  | readGroup (document : Value)
  | condition (on : Option GroupId) (field : Argument) (operator value : Value)
  | add (on : Option GroupId) (member : Argument)
  | setMembers (on : Option GroupId) (members : MemberList)
  | setConjunction (on : Option GroupId) (conjunction : Value)
  | setAttribute (c : Condition) (name : String) (value : Value)
  | sort (field direction : Value)
  | range (start length : Value)
  | count (value : Value)
  | compile
  | fetch
  | execute
  | executeClosing
  | close
  deriving Repr

namespace Call

/-- Asks for a field with a value. -/
def present (on : Option GroupId) (field : Argument) : Call :=
  .condition on field (.operator .isNotNull) .null

/-- Asks for a field without a value. -/
def absent (on : Option GroupId) (field : Argument) : Call :=
  .condition on field (.operator .isNull) .null

/-- A new group of which all members have to hold. -/
def groupOfAll : Call :=
  .createGroup (.conjunction .and)

/-- A new group of which any member has to hold. -/
def groupOfAny : Call :=
  .createGroup (.conjunction .or)

end Call

/-- What a call gives back. -/
inductive Answer
  | done
  | group (id : GroupId)
  | request (r : Request)
  | raw (v : Value)
  | outcome (o : Outcome)
  deriving Repr

structure Session where
  groups : Store
  query : Query
  client : Client
  cluster : Cluster
  installed : Bool
  deriving Repr

namespace Session

/-- A session over an entity type. -/
def make (entityType conjunction : Value) (settings : Option Settings) (client : Client)
    (installed : Bool) : Except Failure Session := do
  let (groups, query) ← Query.make .empty entityType conjunction settings
  pure ⟨groups, query, client, .vacant, installed⟩

/-- The group that a call is about: the one it names, or the root of the query. -/
def target (s : Session) (on : Option GroupId) : GroupId :=
  on.getD s.query.root

/-- The call that gives a part of a member another value. Members are counted from the end where the index
is negative. -/
def partCall (s : Session) (on : Option GroupId) (index : Int) (name : String) (value : Value) :
    Except Failure Call :=
  let members := ((s.groups.cell? (s.target on)).map (·.members)).getD []
  let place := if index < 0 then index + members.length else index
  match if place < 0 then none else members[place.toNat]? with
  | some (.leaf c) => .ok (.setAttribute c name value)
  | some (.group id) =>
    if name = "conjunction" then .ok (.setConjunction (some id) value)
    else if name = "members" then .ok (.setMembers (some id) (.ofValue value))
    else .error (.badValue (.noField Record.groupRecord name))
  | none => .error (.outOfRange "list")

/-- A member out of an argument. -/
def memberOf (member : Argument) : Except Failure Member :=
  match member with
  | .group id => .ok (.group id)
  | .condition c => .ok (.leaf c)
  | .value v => .error (.malformed (.foreignMember v.typeName))

/-- Adds a member to a group. -/
def addMember (s : Session) (on : Option GroupId) (member : Member) : Except Failure Session :=
  match s.groups.add (s.target on) member with
  | .ok groups => .ok { s with groups }
  | .error cause => .error (.malformed cause)

/-- Adds a condition to a group, or a group that stands in place of a field. -/
def addCondition (s : Session) (on : Option GroupId) (field : Argument) (operator value : Value) :
    Except Failure Session :=
  match field with
  | .group id => s.addMember on (.group id)
  | .condition c => match Operator.read operator with
    | .error refusal => .error refusal.toFailure
    | .ok _ =>
      let cause := Malformed.conditionAsField c.field c.operator c.value
      .error (cause.refusal .condition).toFailure
  | .value field => match Condition.compose field operator value with
    | .ok c => s.addMember on (.leaf c)
    | .error refusal => .error refusal.toFailure

/-- A member that is to be assigned: a tree to store, or a member that is there. -/
inductive Pending
  | tree (t : Tree)
  | member (m : Member)

def pendingOf (member : Argument) : Field.Checked Pending :=
  match member with
  | .group id => .ok (.member (.group id))
  | .condition c => .ok (.member (.leaf c))
  | .value v => (Record.member v).map fun reading => .tree reading.tree

def pendingFrom (index : Nat) : List Argument → Field.Checked (List Pending)
  | [] => .ok []
  | item :: rest =>
    List.cons <$> (pendingOf item).inside (.index index) <*> pendingFrom (index + 1) rest

/-- Stores the trees among members that are to be assigned. -/
def settle (groups : Store) : List Pending → Store × List Member
  | [] => (groups, [])
  | .member m :: rest =>
    let (groups, members) := settle groups rest
    (groups, m :: members)
  | .tree t :: rest =>
    let (groups, m) := groups.insert t
    let (groups, members) := settle groups rest
    (groups, m :: members)

/-- The members of a group that are to be assigned, all of which are checked. -/
def pendingMembers (members : MemberList) : Field.Checked (List Pending) :=
  match members with
  | .items items => (pendingFrom 0 items).inside (.name "members")
  | .other _ => (Field.Checked.fault .listType).inside (.name "members")

/-- Gives a group other members, all of which are checked first. -/
def assignMembers (s : Session) (on : Option GroupId) (members : MemberList) :
    Except Failure Session :=
  match pendingMembers members with
  | .ok pending =>
    let (groups, members) := settle s.groups pending
    .ok { s with groups := groups.setMembers (s.target on) members }
  | .faults details => .error (.invalid ⟨Record.groupRecord, details⟩)
  | .stopped failure => .error failure

/-- The error of a new group whose conjunction is refused: where that is a fault of a field, its members
are checked as well. -/
def refusedGroup (refusal : Refusal) (members : MemberList) : Failure :=
  let read : Field.Checked Unit :=
    (fun _ _ => ()) <$> (refusal.ofConjunction : Field.Checked Unit) <*> pendingMembers members
  match read with
  | .faults details => .invalid ⟨Record.groupRecord, details⟩
  | .stopped failure => failure
  | .ok _ => refusal.toFailure

/-- A new group with members, all of which are checked, and its number. -/
def createFilled (s : Session) (conjunction : Value) (members : MemberList) :
    Except Failure (Session × GroupId) :=
  match Conjunction.read conjunction with
  | .error refusal => .error (refusedGroup refusal members)
  | .ok c =>
    let (groups, id) := s.groups.create ⟨c, []⟩
    (assignMembers { s with groups } (some id) members).map fun changed => (changed, id)

/-- The outcome of a call that either changes the session or fails. -/
def change (s : Session) (result : Except Failure Session) : Session × Trace Event Answer :=
  match result with
  | .ok changed => (changed, pure .done)
  | .error failure => (s, .fail failure)

/-- The session with a client after a call to it. -/
def withClient {α : Type} (s : Session) (run : Client × Trace Event α) (answer : α → Answer) :
    Session × Trace Event Answer :=
  ({ s with client := run.1 }, do
    let a ← run.2
    pure (answer a))

/-- Carries out a call. -/
def perform (s : Session) : Call → Session × Trace Event Answer
  | .createGroup conjunction => match Conjunction.read conjunction with
    | .error refusal => (s, .fail refusal.toFailure)
    | .ok c =>
      let (groups, id) := s.groups.create ⟨c, []⟩
      ({ s with groups }, pure (.group id))
  | .createFilled conjunction members => match s.createFilled conjunction members with
    | .error failure => (s, .fail failure)
    | .ok (changed, id) => (changed, pure (.group id))
  | .readGroup document => match Group.ofDocument document with
    | .error refusal => (s, .fail refusal.toFailure)
    | .ok g =>
      let (groups, id) := s.groups.insertGroup g
      ({ s with groups }, pure (.group id))
  | .condition on field operator value => s.change (s.addCondition on field operator value)
  | .add on member => s.change ((memberOf member).bind (s.addMember on))
  | .setMembers on members => s.change (s.assignMembers on members)
  | .setConjunction _ _ => (s, .fail (.invalid
      ⟨Record.groupRecord, [⟨[.name "conjunction"], .frozenField⟩]⟩))
  | .setAttribute _ name _ => (s, .fail (.invalid
      ⟨Record.conditionRecord, [⟨[.name name], .frozenRecord⟩]⟩))
  | .sort field direction =>
    s.change ((s.query.sort field direction).map fun query => { s with query })
  | .range start length =>
    s.change ((s.query.range start length).map fun query => { s with query })
  | .count value => ({ s with query := s.query.setCount value }, pure .done)
  | .compile => (s, do
      let r ← (s.query.request s.groups).mapEvents Event.logged
      pure (.request r))
  | .fetch =>
    s.withClient (Execution.fetch s.query s.groups s.client s.installed s.cluster) .raw
  | .execute =>
    s.withClient (Execution.execute s.query s.groups s.client s.installed s.cluster) .outcome
  | .executeClosing =>
    s.withClient (Execution.executeClosing s.query s.groups s.client s.installed s.cluster) .outcome
  | .close => s.withClient s.client.close fun _ => .done

end Session

end SearchFilter
