import SearchFilter.Proofs.Declarative.Refusal
import SearchFilter.Proofs.Document.RoundTrip
import SearchFilter.Proofs.Lowering.Refusal
import SearchFilter.Proofs.Request.Assembly

/-!
How a document ends that is to become a request: as one, in an error of the library's own, or in another
error, which goes out as it is. Main statement: which of the three it is shows in the document, in its
filter, the entries it sorts by, its window and its index, and in the values that an error would show.
-/

namespace SearchFilter

variable {failure : Failure}

private theorem NaturalKey.escapes_of_sortValues {values : List Value}
    (refused : sortValues values = .error failure) : failure.Escapes := by
  unfold sortValues at refused
  split at refused
  · cases refused
    exact ⟨rfl, nofun⟩
  · split at refused
    · cases refused
      exact ⟨rfl, nofun⟩
    · cases refused

private theorem Leaf.escapes_of_make {c : Condition} (shaped : c.WellShaped)
    (refused : make c.operator (.text c.field) c.value = .error failure) : failure.Escapes := by
  obtain ⟨field, op, value⟩ := c
  have fits := shaped.fits
  cases op with
  | between =>
    obtain ⟨low, high, rfl, _, _⟩ := fits
    cases sorted : NaturalKey.sortValues [low, high] with
    | error other =>
      have same : other = failure := by simpa [make, within, Value.items?, sorted] using refused
      exact same ▸ NaturalKey.escapes_of_sortValues sorted
    | ok values =>
      rcases NaturalKey.sortValues_pair sorted with rfl | rfl <;>
        simp [make, within, Value.items?, sorted, keyed, Value.isKey] at refused
  | isIn | notIn =>
    obtain ⟨items, rfl, _, _⟩ := fits
    simp [make, anyOf, Value.items?, keyed, Value.isKey] at refused
  | _ => simp [make, keyed, Value.isKey] at refused

namespace Tree

private theorem escapes_of_pieces {trees : List Tree} {conjunction : Conjunction}
    (each : ∀ t ∈ trees, t.toDraft.piece conjunction = .error failure → failure.Escapes)
    (refused : Draft.pieces conjunction (trees.map toDraft) = .error failure) : failure.Escapes := by
  induction trees with
  | nil => cases refused
  | cons t rest ih =>
    rcases Result.bind_eq_error_iff.mp refused with first | ⟨_, _, others⟩
    · exact each t List.mem_cons_self first
    · rcases Result.bind_eq_error_iff.mp others with later | ⟨_, _, done⟩
      · exact ih (fun t member => each t (List.mem_cons_of_mem _ member)) later
      · cases done

private theorem escapes_of_piece {t : Tree} {conjunction : Conjunction}
    (accepted : ∀ c ∈ t.conditions, c.Accepted)
    (refused : t.toDraft.piece conjunction = .error failure) : failure.Escapes := by
  induction t generalizing conjunction with
  | leaf c =>
    have shaped := Condition.accepted_iff_wellShaped.mp (forall_conditions_leaf.mp accepted)
    exact Leaf.escapes_of_make shaped (Result.map_eq_error_iff.mp refused)
  | group inner members ih =>
    have each := forall_conditionsOf.mp accepted
    have inside := Result.map_eq_error_iff.mp refused
    rw [toDrafts_eq_map] at inside
    exact escapes_of_pieces (fun t member => ih t member (each t member)) inside

end Tree

/-- A filter of accepted conditions that is not lowered ends in an error that escapes. -/
theorem Group.escapes_of_lower {g : Group} {warnings : Bool} (accepted : ∀ c ∈ g.conditions, c.Accepted)
    (refused : (g.lower warnings).result = .error failure) : failure.Escapes := by
  have each := Tree.forall_conditionsOf.mp accepted
  rw [Group.result_lower, Result.map_eq_error_iff] at refused
  exact Tree.escapes_of_pieces (fun t member => Tree.escapes_of_piece (each t member)) refused

/-- A filter of accepted conditions is lowered and all its ranges can be ordered, or one of them cannot and
it ends in an error that escapes. -/
theorem Group.lower_ends {g : Group} {warnings : Bool} (accepted : ∀ c ∈ g.conditions, c.Accepted) :
    (∃ q, (g.lower warnings).result = .ok q ∧ ∀ c ∈ g.conditions, c.Orderable) ∨
      ∃ failure, (g.lower warnings).result = .error failure ∧ failure.Escapes ∧
        ∃ c ∈ g.conditions, ¬ c.Orderable := by
  have each := Tree.forall_conditionsOf.mp accepted
  have lowers : (∃ q, (g.lower warnings).result = .ok q) ↔ ∀ c ∈ g.conditions, c.Orderable := by
    rw [Group.result_lower, Result.map_isOk_iff]
    exact Tree.members_isOk_iff fun t member => Tree.piece_isOk_iff (each t member)
  cases lowered : (g.lower warnings).result with
  | ok q => exact .inl ⟨q, rfl, lowers.mp ⟨q, lowered⟩⟩
  | error failure =>
    have unordered : ¬ ∀ c ∈ g.conditions, c.Orderable := by
      intro ordered
      obtain ⟨q, fine⟩ := lowers.mpr ordered
      cases lowered.symm.trans fine
    exact .inr ⟨failure, rfl, Group.escapes_of_lower accepted lowered, by simpa using unordered⟩

/-- A search finds room for hits: a length is given, or the cluster's window reaches behind the hits to
skip. -/
def Window.Reaches (size : Int) (window : Option Window) : Prop :=
  window.bind (·.length) ≠ none ∨ (window.bind (·.start)).getD 0 < size

/-- A value names an index. -/
def Request.Indexed (index : Value) : Prop :=
  ∃ name, Field.readText index = .ok name

namespace Compiler

variable {size : Int} {warnings count : Bool} {index filter : Value} {orders : List HitOrder}
  {window : Option Window}

private theorem sizeOf_of_reaches (warnings : Bool) (whole : window.bind (·.length) ≠ some 0)
    (reaches : Window.Reaches size window) : ∃ n, sizeOf ⟨.int size, warnings⟩
      (positive? (window.bind (·.start))) (positive? (window.bind (·.length))) = .ok (.int n) := by
  cases length : window.bind (·.length) with
  | some n =>
    have positive : n ≠ 0 := by
      rintro rfl
      exact whole length
    exact ⟨n, sizeOf_length positive⟩
  | none =>
    have inside : (window.bind (·.start)).getD 0 < size := reaches.resolve_left (fun given => given length)
    exact ⟨_, (remaining_positive? (c := ⟨.int size, warnings⟩) rfl _).trans (if_pos inside)⟩

private theorem searchRequest_of_outside (positive : 1 ≤ size) (outside : ¬ Window.Reaches size window) :
    ∃ failure : Failure, failure.Tells (Numeral.isWritable ((window.bind (·.start)).getD 0)) ∧
      searchRequest ⟨.int size, warnings⟩ index filter orders window = .error failure := by
  obtain ⟨unlimited, behind⟩ := not_or.mp outside
  have refused : sizeOf ⟨.int size, warnings⟩ (positive? (window.bind (·.start)))
      (positive? (window.bind (·.length))) = .error (BuildFault.outsideWindow
        ((window.bind (·.start)).getD 0) (.int size)).toFailure := by
    rw [not_not.mp unlimited]
    exact (remaining_positive? (c := ⟨.int size, warnings⟩) rfl _).trans (if_neg behind)
  have told : (BuildFault.outsideWindow ((window.bind (·.start)).getD 0) (.int size)).toFailure = _ :=
    toFailure_outsideWindow (c := ⟨.int size, warnings⟩) rfl positive (Int.not_lt.mp behind)
  refine ⟨(BuildFault.outsideWindow ((window.bind (·.start)).getD 0) (.int size)).toFailure, ?_, ?_⟩
  · rw [told]
    cases Numeral.isWritable ((window.bind (·.start)).getD 0) with
    | true => exact rfl
    | false => exact ⟨rfl, nofun⟩
  · simp only [searchRequest, refused]

/-- Once a search has room for hits, its request depends on the name of the index alone, as that of a
count does. -/
private theorem request_of_room (whole : window.bind (·.length) ≠ some 0)
    (room : count = true ∨ Window.Reaches size window) : ∃ named : String → Request,
      (if count then countRequest index filter
        else searchRequest ⟨.int size, warnings⟩ index filter orders window) =
        (named <$> readIndex index).toExcept Request.record := by
  cases count with
  | true => exact ⟨_, rfl⟩
  | false =>
    have reaches := room.resolve_left Bool.false_ne_true
    obtain ⟨n, sized⟩ := sizeOf_of_reaches warnings whole reaches
    exact ⟨_, searchRequest_of_sizeOf sized⟩

private theorem named_of_indexed (indexed : Request.Indexed index) (named : String → Request) :
    ∃ request, (named <$> readIndex index).toExcept Request.record = .ok request := by
  obtain ⟨name, read⟩ := indexed
  exact ⟨named name, by rw [readIndex, read]; rfl⟩

private theorem named_of_not_indexed (nameless : ¬ Request.Indexed index) (named : String → Request) :
    ∃ failure : Failure, failure.Escapes ∧
      (named <$> readIndex index).toExcept Request.record = .error failure := by
  have steady := Field.steady_readText index
  unfold readIndex
  cases read : Field.readText index with
  | ok name => exact absurd ⟨name, read⟩ nameless
  | stopped other => exact absurd read (steady other)
  | faults details =>
    refine ⟨.invalid ⟨Request.record, details.map (Field.Detail.inside (.name "index"))⟩, ?_, rfl⟩
    exact ⟨rfl, nofun⟩

end Compiler

namespace Declarative

variable {entries : List (Value × Value)} {index : Value} {s : Settings} {g : Group}
  {orders : List HitOrder} {window : Option Window} {items : List Value}

/-- What a document says, if it says what it should: a filter, orders of hits and a window. -/
structure Describes (entries : List (Value × Value)) (g : Group) (orders : List HitOrder)
    (window : Option Window) : Prop where
  filter : Group.ofDocument (.map entries) = .ok g
  sorts : ∃ items, sortItems? (Document.given "sort" entries) = some items ∧
    List.Forall₂ SortsBy items orders
  range : Windowed (Document.given "range" entries) window

/-- A search for what a document describes has room for hits; a count needs none. -/
def Roomy (size : Int) (entries : List (Value × Value)) (window : Option Window) : Prop :=
  (Document.given "count" entries).isTruthy = true ∨ Window.Reaches size window

/-- A document becomes a request over an index. -/
def Requests (size : Int) (entries : List (Value × Value)) (index : Value) : Prop :=
  ∃ g orders window, Describes entries g orders window ∧ (∀ c ∈ g.conditions, c.Orderable) ∧
    Roomy size entries window ∧ Request.Indexed index

/-- A document over an index ends in an error that escapes: what it sorts by has no entries, a range in its
filter cannot be ordered, or its index is no name. It also does where it is refused with a value that is
too long to be written out: for its filter, for the first entry that stands for no order of hits, for its
range, or for where its search starts. -/
inductive Breaks (size : Int) (entries : List (Value × Value)) (index : Value) : Prop
  | unread {check : Check} (filter : Group.ofDocument (.map entries) = .error (.unwritable check))
  | unlisted {g : Group} (filter : Group.ofDocument (.map entries) = .ok g)
      (none : sortItems? (Document.given "sort" entries) = none)
  | unsorted {g : Group} {before after : List Value} {item : Value} {orders : List HitOrder}
      (filter : Group.ofDocument (.map entries) = .ok g)
      (listed : sortItems? (Document.given "sort" entries) = some (before ++ item :: after))
      (earlier : List.Forall₂ SortsBy before orders) (wrong : ∀ order, ¬ SortsBy item order)
      (long : (entryShown item).isWritable = false)
  | unwindowed {g : Group} {items : List Value} {orders : List HitOrder}
      (filter : Group.ofDocument (.map entries) = .ok g)
      (listed : sortItems? (Document.given "sort" entries) = some items)
      (each : List.Forall₂ SortsBy items orders)
      (wrong : ∀ window, ¬ Windowed (Document.given "range" entries) window)
      (long : (rangeShown (Document.given "range" entries)).all Value.isWritable = false)
  | unordered {g : Group} {orders : List HitOrder} {window : Option Window}
      (described : Describes entries g orders window) {c : Condition} (inside : c ∈ g.conditions)
      (range : ¬ c.Orderable)
  | outside {g : Group} {orders : List HitOrder} {window : Option Window}
      (described : Describes entries g orders window) (behind : ¬ Roomy size entries window)
      (long : Numeral.isWritable ((window.bind (·.start)).getD 0) = false)
  | nameless {g : Group} {orders : List HitOrder} {window : Option Window}
      (described : Describes entries g orders window) (room : Roomy size entries window)
      (none : ¬ Request.Indexed index)

/-- The request that a document asks for over an index. -/
def asked (entries : List (Value × Value)) (index : Value) (s : Settings) : Except Failure Request :=
  build (.map entries) index (some s) >>= fun built => (built.2.request built.1).result

/-- How the request of a document ends: each of three ways has its own documents. -/
inductive Ends (size : Int) (entries : List (Value × Value)) (index : Value) : Except Failure Request → Prop
  | request {request : Request} (asks : Requests size entries index)
      (sound : ¬ Breaks size entries index) : Ends size entries index (.ok request)
  | refused {failure : Failure} (own : failure.Own) (asks : ¬ Requests size entries index)
      (sound : ¬ Breaks size entries index) : Ends size entries index (.error failure)
  | broken {failure : Failure} (escapes : failure.Escapes) (asks : ¬ Requests size entries index)
      (breaks : Breaks size entries index) : Ends size entries index (.error failure)

private theorem build_of_describes (named : index.isTruthy = true) (valid : s.Valid)
    (described : Describes entries g orders window) : build (.map entries) index (some s) =
      .ok (stored g, applyCount ⟨index, 0, orders, window, .bool false, .ofSettings (some s)⟩
        (Document.given "count" entries)) := by
  obtain ⟨items, listed, each⟩ := described.sorts
  have valid : ∀ other ∈ some s, other.Valid := by
    rintro _ ⟨⟩
    exact valid
  exact (build_eq_ok_iff named valid).mpr
    ⟨g, items, orders, window, described.filter, listed, each, described.range, rfl⟩

theorem Windowed.unique {range : Value} {window' : Option Window} (first : Windowed range window)
    (second : Windowed range window') : window = window' := by
  cases first with
  | unsaid falsy =>
    cases second with
    | unsaid => rfl
    | said some => simp [Value.isTruthy, some] at falsy
  | said some parts =>
    cases second with
    | unsaid falsy => simp [Value.isTruthy, some] at falsy
    | said _ others =>
      have same := (Query.windowOf_eq_ok_iff.mpr parts).symm.trans (Query.windowOf_eq_ok_iff.mpr others)
      exact Except.ok.inj same

private theorem proper_of_saidBy {start length : Value} (said : Window.SaidBy start length window) :
    ∀ w ∈ window, w.Proper := by
  cases said with
  | nothing => exact nofun
  | parts _ first second =>
    rintro _ ⟨⟩
    exact Window.proper_iff.mpr ⟨_, _, Window.ofEntries_eq_ok_iff.mpr ⟨first, second⟩⟩

namespace Windowed

variable {range : Value}

theorem proper (asks : Windowed range window) : ∀ w ∈ window, w.Proper := by
  cases asks with
  | unsaid => exact nofun
  | said _ parts => exact proper_of_saidBy parts

theorem length_ne_zero (asks : Windowed range window) : window.bind (·.length) ≠ some 0 := by
  intro zero
  obtain ⟨w, said, none⟩ := Option.bind_eq_some_iff.mp zero
  exact absurd ((asks.proper w said).length 0 none) (by decide)

end Windowed

namespace Describes

theorem unique {other : Group} {orders' : List HitOrder} {window' : Option Window}
    (first : Describes entries g orders window) (second : Describes entries other orders' window') :
    other = g ∧ window' = window :=
  ⟨Except.ok.inj (second.filter.symm.trans first.filter), second.range.unique first.range⟩

/-- A document that says what it should becomes a request if its ranges can be ordered, its search has room
for hits and its index is a name. -/
theorem requests_iff {size : Int} (described : Describes entries g orders window) :
    Requests size entries index ↔
      (∀ c ∈ g.conditions, c.Orderable) ∧ Roomy size entries window ∧ Request.Indexed index := by
  constructor
  · rintro ⟨_, _, _, other, asks⟩
    obtain ⟨rfl, rfl⟩ := described.unique other
    exact asks
  · exact fun asks => ⟨g, orders, window, described, asks⟩

theorem directed (described : Describes entries g orders window) :
    ∃ items, sortItems? (Document.given "sort" entries) = some items ∧
      (∀ item ∈ items, ∃ order, SortsBy item order) ∧ Windowed (Document.given "range" entries) window := by
  obtain ⟨items, listed, each⟩ := described.sorts
  exact ⟨items, listed, exists_orders_iff.mp ⟨orders, each⟩, described.range⟩

/-- A document that says what it should breaks if a range in it cannot be ordered, if its search starts
behind the window at a place that is not written out, or if its search has room for hits and its index is no
name. -/
theorem breaks_iff {size : Int} (described : Describes entries g orders window) :
    Breaks size entries index ↔
      (∃ c ∈ g.conditions, ¬ c.Orderable) ∨
      (¬ Roomy size entries window ∧ Numeral.isWritable ((window.bind (·.start)).getD 0) = false) ∨
      Roomy size entries window ∧ ¬ Request.Indexed index := by
  obtain ⟨items, listed, each, ranged⟩ := described.directed
  constructor
  · intro breaks
    cases breaks with
    | unread filter => cases filter.symm.trans described.filter
    | unlisted _ none => cases listed.symm.trans none
    | @unsorted _ _ _ item _ _ again _ wrong _ =>
      cases listed.symm.trans again
      obtain ⟨order, sorts⟩ := each item (List.mem_append_right _ List.mem_cons_self)
      exact absurd sorts (wrong order)
    | unwindowed _ _ _ wrong _ => exact absurd ranged (wrong window)
    | unordered other inside unordered =>
      obtain ⟨rfl, _⟩ := described.unique other
      exact .inl ⟨_, inside, unordered⟩
    | outside other behind long =>
      obtain ⟨_, rfl⟩ := described.unique other
      exact .inr (.inl ⟨behind, long⟩)
    | nameless other room nameless =>
      obtain ⟨_, rfl⟩ := described.unique other
      exact .inr (.inr ⟨room, nameless⟩)
  · rintro (⟨c, inside, unordered⟩ | ⟨behind, long⟩ | ⟨room, nameless⟩)
    · exact .unordered described inside unordered
    · exact .outside described behind long
    · exact .nameless described room nameless

end Describes

theorem asked_of_describes (named : index.isTruthy = true) (valid : s.Valid)
    (described : Describes entries g orders window) : asked entries index s =
      (Compiler.request ⟨.int s.query.maxResultWindow, s.query.warnOnLeadingWildcard⟩ index g orders window
        (Document.given "count" entries).isTruthy).result := by
  rw [asked, build_of_describes named valid described, Result.ok_bind, request_built]
  rfl

private theorem build_of_filter (named : index.isTruthy = true) (valid : s.Valid)
    (filter : Group.ofDocument (.map entries) = .ok g) : build (.map entries) index (some s) =
      (applyDirectives ⟨index, 0, [], none, .bool false, .ofSettings (some s)⟩ entries).map
        fun q => (stored g, q) := by
  have valid : ∀ other ∈ some s, other.Valid := by
    rintro _ ⟨⟩
    exact valid
  rw [build_eq, filter, Result.mapError_ok, Result.ok_bind, make_eq named valid, Result.ok_bind]
  cases applyDirectives ⟨index, 0, [], none, .bool false, .ofSettings (some s)⟩ entries <;> rfl

private theorem build_of_unlisted (named : index.isTruthy = true) (valid : s.Valid)
    (filter : Group.ofDocument (.map entries) = .ok g)
    (none : sortItems? (Document.given "sort" entries) = none) :
    build (.map entries) index (some s) = .error .wrongType := by
  rw [build_of_filter named valid filter, applyDirectives_eq, applySorts_eq, none]
  rfl

private theorem ends_of_describes (named : index.isTruthy = true) (valid : s.Valid)
    (described : Describes entries g orders window) :
    Ends s.query.maxResultWindow entries index (asked entries index s) := by
  have accepted : ∀ c ∈ g.conditions, c.Accepted := Group.accepted_of_ofDocument described.filter
  rw [asked_of_describes named valid described]
  rcases Group.lower_ends accepted with ⟨q, lowered, ordered⟩ | ⟨failure, refused, escapes, broken⟩
  · rw [Compiler.result_request (c := ⟨.int s.query.maxResultWindow, s.query.warnOnLeadingWildcard⟩) lowered]
    have sorted : ¬ ∃ c ∈ g.conditions, ¬ c.Orderable := by
      rintro ⟨c, inside, unordered⟩
      exact unordered (ordered c inside)
    by_cases room : Roomy s.query.maxResultWindow entries window
    · obtain ⟨request, same⟩ := Compiler.request_of_room described.range.length_ne_zero room
      rw [same]
      by_cases indexed : Request.Indexed index
      · obtain ⟨asked, done⟩ := Compiler.named_of_indexed indexed request
        rw [done]
        refine .request (described.requests_iff.mpr ⟨ordered, room, indexed⟩) ?_
        rw [described.breaks_iff]
        rintro (unordered | ⟨behind, _⟩ | ⟨_, nameless⟩)
        · exact sorted unordered
        · exact behind room
        · exact nameless indexed
      · obtain ⟨failure, escapes, failed⟩ := Compiler.named_of_not_indexed indexed request
        rw [failed]
        exact .broken escapes (fun asks => indexed (described.requests_iff.mp asks).2.2)
          (.nameless described room indexed)
    · obtain ⟨searches, outside⟩ := not_or.mp room
      obtain ⟨failure, tells, failed⟩ := Compiler.searchRequest_of_outside valid outside
      have asks : ¬ Requests s.query.maxResultWindow entries index := fun asks =>
        room (described.requests_iff.mp asks).2.1
      rw [if_neg searches, failed]
      cases written : Numeral.isWritable ((window.bind (·.start)).getD 0) with
      | false => exact .broken (tells.escapes written) asks (.outside described room written)
      | true =>
        refine .refused (tells.own written) asks ?_
        rw [described.breaks_iff]
        rintro (unordered | ⟨_, long⟩ | ⟨inside, _⟩)
        · exact sorted unordered
        · cases written.symm.trans long
        · exact room inside
  · have stops : (Compiler.request ⟨.int s.query.maxResultWindow, s.query.warnOnLeadingWildcard⟩ index g
        orders window (Document.given "count" entries).isTruthy).result = .error failure := by
      rw [Compiler.request, Trace.result_bind, refused, Result.error_bind]
    rw [stops]
    obtain ⟨c, inside, unordered⟩ := broken
    exact .broken escapes (fun asks => unordered ((described.requests_iff.mp asks).1 c inside))
      (.unordered described inside unordered)

private theorem ends_of_unread {refusal : Refusal} (filter : Group.ofDocument (.map entries) = .error refusal)
    (size : Int) : Ends size entries index (.error refusal.toFailure) := by
  have asks : ¬ Requests size entries index := by
    rintro ⟨g, orders, window, described, _⟩
    cases filter.symm.trans described.filter
  have tells := refusal.tells_toFailure
  cases told : refusal.isTold with
  | true =>
    refine .refused (tells.own told) asks fun breaks => ?_
    cases breaks with
    | unread long =>
      cases filter.symm.trans long
      cases told
    | unlisted read | unsorted read | unwindowed read => cases filter.symm.trans read
    | unordered described | outside described | nameless described =>
      cases filter.symm.trans described.filter
  | false =>
    cases refusal with
    | malformed | unsupported => cases told
    | unwritable check => exact .broken (tells.escapes told) asks (.unread filter)

private theorem first_unique {α : Type} {P : α → Prop} {before before' after after' : List α} {x y : α}
    (same : before ++ x :: after = before' ++ y :: after') (each : ∀ z ∈ before, P z)
    (each' : ∀ z ∈ before', P z) (first : ¬ P x) (second : ¬ P y) : x = y := by
  induction before generalizing before' with
  | nil =>
    cases before' with
    | nil => exact (List.cons.inj same).1
    | cons z rest =>
      cases (List.cons.inj same).1
      exact absurd (each' x List.mem_cons_self) first
  | cons z rest ih =>
    obtain ⟨head, tail⟩ := List.forall_mem_cons.mp each
    cases before' with
    | nil =>
      cases (List.cons.inj same).1
      exact absurd head second
    | cons w later =>
      exact ih (List.cons.inj same).2 tail fun v member => each' v (List.mem_cons_of_mem w member)

private theorem ends_of_undirected {size : Int} {failure : Failure} (asks : ¬ Requests size entries index)
    (undescribed : ∀ g orders window, ¬ Describes entries g orders window)
    (filter : Group.ofDocument (.map entries) = .ok g)
    (listed : sortItems? (Document.given "sort" entries) = some items)
    (refused : applyDirectives ⟨index, 0, [], none, .bool false, .ofSettings (some s)⟩ entries =
      .error failure) : Ends size entries index (.error failure) := by
  rcases applyDirectives_refused rfl listed refused with
    ⟨before, item, after, orders, rfl, earlier, wrong, tells⟩ | ⟨⟨orders, each⟩, wrong, tells⟩
  · cases told : (entryShown item).isWritable with
    | false => exact .broken (tells.escapes told) asks (.unsorted filter listed earlier wrong told)
    | true =>
      refine .refused (tells.own told) asks fun breaks => ?_
      have sorts : ∀ i ∈ before, ∃ order, SortsBy i order := exists_orders_iff.mp ⟨orders, earlier⟩
      cases breaks with
      | unread long => cases filter.symm.trans long
      | unlisted _ none => cases listed.symm.trans none
      | unsorted _ again earlier' wrong' long =>
        have same := Option.some.inj (listed.symm.trans again)
        cases first_unique same sorts (exists_orders_iff.mp ⟨_, earlier'⟩) (not_exists.mpr wrong)
          (not_exists.mpr wrong')
        cases told.symm.trans long
      | unwindowed _ again each _ _ =>
        cases listed.symm.trans again
        obtain ⟨order, stands⟩ :=
          exists_orders_iff.mp ⟨_, each⟩ item (List.mem_append_right _ List.mem_cons_self)
        exact wrong order stands
      | unordered described | outside described | nameless described =>
        exact undescribed _ _ _ described
  · cases told : (rangeShown (Document.given "range" entries)).all Value.isWritable with
    | false => exact .broken (tells.escapes told) asks (.unwindowed filter listed each wrong told)
    | true =>
      refine .refused (tells.own told) asks fun breaks => ?_
      cases breaks with
      | unread long => cases filter.symm.trans long
      | unlisted _ none => cases listed.symm.trans none
      | @unsorted _ _ _ item _ _ again _ wrong' _ =>
        cases listed.symm.trans again
        obtain ⟨order, stands⟩ :=
          exists_orders_iff.mp ⟨_, each⟩ item (List.mem_append_right _ List.mem_cons_self)
        exact wrong' order stands
      | unwindowed _ _ _ _ long => cases told.symm.trans long
      | unordered described | outside described | nameless described =>
        exact undescribed _ _ _ described

/-- The request of a document ends as the document says. -/
theorem asked_ends (named : index.isTruthy = true) (valid : s.Valid) :
    Ends s.query.maxResultWindow entries index (asked entries index s) := by
  cases formed : build (.map entries) index (some s) with
  | ok built =>
    have valid' : ∀ other ∈ some s, other.Valid := by
      rintro _ ⟨⟩
      exact valid
    obtain ⟨g, items, orders, window, filter, listed, each, range, _⟩ :=
      (build_eq_ok_iff named valid').mp formed
    exact ends_of_describes named valid ⟨filter, ⟨items, listed, each⟩, range⟩
  | error failure =>
    have stops : asked entries index s = .error failure := by rw [asked, formed, Result.error_bind]
    have undescribed (g : Group) (orders : List HitOrder) (window : Option Window) :
        ¬ Describes entries g orders window := fun described => by
      cases formed.symm.trans (build_of_describes named valid described)
    have asks : ¬ Requests s.query.maxResultWindow entries index :=
      fun ⟨g, orders, window, described, _⟩ => undescribed g orders window described
    rw [stops]
    cases filter : Group.ofDocument (.map entries) with
    | error refusal =>
      have same : failure = refusal.toFailure := by
        rw [build_eq, filter] at formed
        cases formed
        rfl
      exact same ▸ ends_of_unread filter _
    | ok g =>
      cases listed : sortItems? (Document.given "sort" entries) with
      | none =>
        cases formed.symm.trans (build_of_unlisted named valid filter listed)
        exact .broken ⟨rfl, nofun⟩ asks (.unlisted filter listed)
      | some items =>
        rw [build_of_filter named valid filter, Result.map_eq_error_iff] at formed
        exact ends_of_undirected asks undescribed filter listed formed

end Declarative

end SearchFilter
