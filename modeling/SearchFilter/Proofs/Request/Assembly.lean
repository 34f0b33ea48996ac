import SearchFilter.Proofs.Checked
import SearchFilter.Proofs.Declarative.Building
import SearchFilter.Proofs.Value.Writable

/-!
Requests, put together from a filter that is lowered, the orders of its hits and a window. Main statement:
a count carries the filter alone; a search fails exactly if it gives no length and starts where the
cluster's window has ended, and else its body says what is asked for, part after part. It is refused for
its start, if the message about that can be written out.
-/

namespace SearchFilter

theorem HitOrder.toDocument_inj {order other : HitOrder} :
    order.toDocument = other.toDocument ↔ order = other := by
  obtain ⟨field, direction⟩ := order
  obtain ⟨field', direction'⟩ := other
  constructor
  · intro same
    cases direction <;> cases direction' <;> simp_all [toDocument, SortDirection.clauseName, Value.ofFields]
  · intro same
    rw [same]

namespace Window

variable {bound : Nat} {n : Option Int} {w : Window}

/-- A window skips some number of hits, maybe none, and is long enough for one. -/
structure Proper (w : Window) : Prop where
  start : ∀ n ∈ w.start, 0 ≤ n
  length : ∀ n ∈ w.length, 1 ≤ n

theorem start_nonneg {window : Option Window} (proper : ∀ w ∈ window, w.Proper) :
    ∀ n ∈ window.bind (·.start), 0 ≤ n := by
  intro n skips
  obtain ⟨w, said, skips⟩ := Option.bind_eq_some_iff.mp skips
  exact (proper w said).start n skips

private theorem exists_part_iff : (∃ value, Part bound value n) ↔ ∀ k ∈ n, (bound : Int) ≤ k := by
  constructor
  · intro ⟨value, part⟩ k said
    cases part with
    | absent => cases said
    | given read large =>
      cases said
      exact large
  · intro large
    cases n with
    | none => exact ⟨.null, .absent⟩
    | some k => exact ⟨.int k, .given rfl (large k rfl)⟩

/-- The windows that two values are read as are the proper ones. -/
theorem proper_iff : w.Proper ↔
    ∃ start length, ofEntries [(.text "start", start), (.text "length", length)] = .ok w := by
  constructor
  · intro proper
    obtain ⟨start, first⟩ := exists_part_iff.mpr proper.start
    obtain ⟨length, second⟩ := exists_part_iff.mpr proper.length
    exact ⟨start, length, ofEntries_eq_ok_iff.mpr ⟨first, second⟩⟩
  · intro ⟨start, length, read⟩
    obtain ⟨first, second⟩ := ofEntries_eq_ok_iff.mp read
    exact ⟨exists_part_iff.mp ⟨start, first⟩, exists_part_iff.mp ⟨length, second⟩⟩

/-- A search gives no length and starts where the cluster's window has ended. -/
def Outside (size : Int) (window : Option Window) : Prop :=
  window.bind (·.length) = none ∧ ∃ n ∈ window.bind (·.start), size ≤ n

end Window

namespace Request

variable {size : Int} {orders : List HitOrder} {start : Option Int}

/-- What a body says of the order of hits: that of the last directive, if there is one. -/
inductive SortPart : List HitOrder → List (String × Value) → Prop
  | unsaid : SortPart [] []
  | last (earlier : List HitOrder) (order : HitOrder) :
      SortPart (earlier ++ [order]) [("sort", order.toDocument)]

/-- What a body says of the hits to skip: how many they are, if there are any. -/
inductive StartPart : Option Int → List (String × Value) → Prop
  | unsaid : StartPart none []
  | zero : StartPart (some 0) []
  | skips {n : Int} (some : 1 ≤ n) : StartPart (.some n) [("from", .int n)]

/-- How many hits a search asks for: as many as its window is long, or all that the cluster's window has
left behind the skipped ones. -/
inductive Asks (size : Int) (start : Option Int) : Option Int → Int → Prop
  | length {n : Int} (positive : 1 ≤ n) : Asks size start (some n) n
  | rest {n : Int} (positive : 1 ≤ n) (fills : start.getD 0 + n = size) : Asks size start none n

/-- The body of a search: no documents, the query, the order of the hits, where they start and how many
they are. -/
inductive SearchBody (size : Int) (query : Value) (orders : List HitOrder) (window : Option Window) :
    Value → Prop
  | parts {sort start : List (String × Value)} {n : Int} (sorts : SortPart orders sort)
      (skips : StartPart (window.bind (·.start)) start)
      (asks : Asks size (window.bind (·.start)) (window.bind (·.length)) n) :
      SearchBody size query orders window (.ofFields
        ([("_source", .bool false), ("query", query)] ++ sort ++ start ++ [("size", .int n)]))

theorem sortPart_getLast? (orders : List HitOrder) :
    SortPart orders (optional "sort" (orders.getLast?.map HitOrder.toDocument)) := by
  rcases orders.eq_nil_or_concat' with rfl | ⟨earlier, order, rfl⟩
  · exact .unsaid
  · rw [List.getLast?_concat]
    exact .last earlier order

/-- A start of zero is left out, as one that is not given. -/
theorem startPart_positive? (whole : ∀ n ∈ start, 0 ≤ n) :
    StartPart start (optional "from" ((Compiler.positive? start).map .int)) := by
  cases start with
  | none => exact .unsaid
  | some n =>
    by_cases zero : n = 0
    · subst zero
      exact .zero
    · have some : 1 ≤ n := by
        have := whole n rfl
        omega
      have kept : Compiler.positive? (.some n) = .some n := by
        simp [Compiler.positive?, Option.filter, zero]
      rw [kept]
      exact .skips some

end Request

namespace Compiler

variable {c : Compiler} {size n : Int} {start length : Option Int} {index filter : Value} {g : Group}
  {orders : List HitOrder} {window : Option Window} {count : Bool} {q : BoolQuery}

theorem make_isOk_iff {maxWindow : Value} {warnings : Bool}
    (whole : maxWindow.asNumber? = some (.int size)) :
    (∃ c, make maxWindow warnings = .ok c) ↔ 1 ≤ size := by
  simp only [make, whole, lessThanOne_int]
  by_cases positive : 1 ≤ size
  · have enough : ¬ size < 1 := Int.not_lt.mpr positive
    simp [enough, positive]
  · have few : size < 1 := Int.not_le.mp positive
    simp [few, positive]

/-- Hits to skip count the same if they are none and if they are not given. -/
theorem positive?_getD (n : Option Int) : (positive? n).getD 0 = n.getD 0 := by
  cases n with
  | none => rfl
  | some n =>
    by_cases zero : n = 0
    · simp [positive?, Option.filter, zero]
    · simp [positive?, Option.filter, zero]

theorem remaining_positive? (whole : c.maxWindow.asNumber? = some (.int size)) (start : Option Int) :
    c.remaining (positive? start) =
      if start.getD 0 < size then .ok (.int (size - start.getD 0))
      else .error (BuildFault.outsideWindow (start.getD 0) c.maxWindow).toFailure := by
  simp only [remaining, whole, Number.minus, positive?_getD, lessThanOne_int]
  by_cases inside : start.getD 0 < size
  · have enough : ¬ size - start.getD 0 < 1 := by omega
    simp [inside, enough]
  · have few : size - start.getD 0 < 1 := by omega
    simp [inside, few]

theorem sizeOf_length (given : n ≠ 0) : c.sizeOf start (positive? (some n)) = .ok (.int n) := by
  have kept : positive? (some n) = some n := by simp [positive?, Option.filter, given]
  rw [kept, sizeOf]

theorem searchRequest_of_sizeOf
    (sized : c.sizeOf (positive? (window.bind (·.start))) (positive? (window.bind (·.length))) =
      .ok (.int n)) :
    c.searchRequest index filter orders window =
      ((fun name => Request.mk name false filter (some false) (orders.getLast?.map HitOrder.toDocument)
        (positive? (window.bind (·.start))) (some n)) <$> readIndex index).toExcept Request.record := by
  simp only [searchRequest, sized]
  cases readIndex index <;> rfl

theorem result_request (lowered : (g.lower c.warnings).result = .ok q) :
    (c.request index g orders window count).result =
      if count then countRequest index q.toDocument
      else c.searchRequest index q.toDocument orders window := by
  rw [request, Trace.result_bind, lowered, Result.ok_bind, Trace.result_lift]

/-- Of several orders the last is the one in the request. -/
theorem request_getLast? : c.request index g orders.getLast?.toList window count =
    c.request index g orders window count := by
  cases last : orders.getLast? <;> simp [request, searchRequest, last]

theorem sort_of_request {r : Request} (made : (c.request index g orders window false).result = .ok r) :
    r.sort = orders.getLast?.map HitOrder.toDocument := by
  rw [request, Trace.result_bind] at made
  obtain ⟨q, _, made⟩ := Result.bind_eq_ok_iff.mp made
  rw [Trace.result_lift, if_neg Bool.false_ne_true] at made
  unfold searchRequest at made
  cases sized : c.sizeOf (positive? (window.bind (·.start))) (positive? (window.bind (·.length))) with
  | error failure =>
    simp only [sized] at made
    cases made
  | ok size =>
    simp only [sized] at made
    obtain ⟨name, number, _, _, rfl⟩ :=
      Field.Checked.seq_eq_ok_iff.mp (Field.Checked.toExcept_eq_ok_iff.mp made)
    rfl

/-- A start behind the window is shown exactly if it can be written out: the window is no longer. -/
theorem toFailure_outsideWindow {start : Int} (whole : c.maxWindow.asNumber? = some (.int size))
    (positive : 1 ≤ size) (late : size ≤ start) :
    (BuildFault.outsideWindow start c.maxWindow).toFailure =
      if Numeral.isWritable start then .build (.outsideWindow start c.maxWindow)
      else .badValue .tooLongToWrite := by
  have window : Numeral.isWritable start = true → c.maxWindow.isWritable = true := by
    intro written
    have short := Numeral.isWritable_iff.mp written
    cases maximum : c.maxWindow with
    | number n =>
      have same : n = .int size := by
        rw [maximum] at whole
        exact Option.some.inj whole
      subst same
      exact Numeral.isWritable_iff.mpr (Nat.lt_of_le_of_lt (by omega) short)
    | bool => rfl
    | _ =>
      rw [maximum] at whole
      cases whole
  rw [BuildFault.toFailure, Failure.showing]
  cases written : Numeral.isWritable start with
  | true => simp [BuildFault.shown, Value.isWritable, written, window written]
  | false => simp [BuildFault.shown, Value.isWritable, written]

theorem searchRequest_outside (index filter : Value) (orders : List HitOrder)
    (whole : c.maxWindow.asNumber? = some (.int size)) (positive : 1 ≤ size)
    (outside : Window.Outside size window) :
    ∃ start ∈ window.bind (·.start), c.searchRequest index filter orders window =
      .error (if Numeral.isWritable start then .build (.outsideWindow start c.maxWindow)
        else .badValue .tooLongToWrite) := by
  obtain ⟨unlimited, start, skips, late⟩ := outside
  have refused : c.sizeOf (positive? (window.bind (·.start))) (positive? (window.bind (·.length))) =
      .error (BuildFault.outsideWindow start c.maxWindow).toFailure := by
    rw [unlimited, Option.mem_def.mp skips]
    exact (remaining_positive? whole (some start)).trans (if_neg (Int.not_lt.mpr late))
  refine ⟨start, skips, ?_⟩
  simp only [searchRequest, refused, toFailure_outsideWindow whole positive late]

theorem sizeOf_asks (whole : c.maxWindow.asNumber? = some (.int size)) (positive : 1 ≤ size)
    (proper : ∀ w ∈ window, w.Proper) (inside : ¬ Window.Outside size window) :
    ∃ n, Request.Asks size (window.bind (·.start)) (window.bind (·.length)) n ∧
      c.sizeOf (positive? (window.bind (·.start))) (positive? (window.bind (·.length))) =
        .ok (.int n) := by
  cases length : window.bind (·.length) with
  | some n =>
    obtain ⟨w, said, long⟩ := Option.bind_eq_some_iff.mp length
    have large : 1 ≤ n := (proper w said).length n long
    exact ⟨n, .length large, sizeOf_length (by omega)⟩
  | none =>
    have early : (window.bind (·.start)).getD 0 < size := by
      cases start : window.bind (·.start) with
      | none => exact positive
      | some k => exact Int.not_le.mp fun late => inside ⟨length, k, start, late⟩
    refine ⟨size - (window.bind (·.start)).getD 0, .rest ?_ ?_, ?_⟩
    · omega
    · omega
    · exact (remaining_positive? whole _).trans (if_pos early)

private theorem request_of_inside (name : String) (orders : List HitOrder)
    (whole : c.maxWindow.asNumber? = some (.int size)) (positive : 1 ≤ size)
    (lowered : (g.lower c.warnings).result = .ok q) (proper : ∀ w ∈ window, w.Proper)
    (inside : ¬ Window.Outside size window) :
    ∃ r, (c.request (.text name) g orders window false).result = .ok r ∧
      Request.SearchBody size (.ofFields [("bool", q.toDocument)]) orders window r.body := by
  obtain ⟨n, asks, sized⟩ := sizeOf_asks whole positive proper inside
  rw [result_request lowered, if_neg Bool.false_ne_true, searchRequest_of_sizeOf sized]
  have starts := Request.startPart_positive? (Window.start_nonneg proper)
  exact ⟨_, rfl, .parts (Request.sortPart_getLast? orders) starts asks⟩

private theorem request_of_outside (index : Value) (orders : List HitOrder)
    (whole : c.maxWindow.asNumber? = some (.int size)) (positive : 1 ≤ size)
    (lowered : (g.lower c.warnings).result = .ok q) (outside : Window.Outside size window) :
    ∃ start ∈ window.bind (·.start), (c.request index g orders window false).result =
        .error (if Numeral.isWritable start then .build (.outsideWindow start c.maxWindow)
          else .badValue .tooLongToWrite) := by
  rw [result_request lowered, if_neg Bool.false_ne_true]
  exact searchRequest_outside _ _ _ whole positive outside

/-- The request of a filter that is lowered, over a cluster's window of one hit at least: a count has the
query as its whole body, and a search cannot be built exactly if it is outside the window. It is then
refused if its start can be written out, and else ends in the error of the integer that cannot. Otherwise
the body of the search has the same query, with the order, the start and the number of the hits behind it. -/
theorem request_assembles {name : String} (whole : c.maxWindow.asNumber? = some (.int size))
    (positive : 1 ≤ size) (lowered : (g.lower c.warnings).result = .ok q)
    (proper : ∀ w ∈ window, w.Proper) :
    (∃ r, (c.request (.text name) g orders window true).result = .ok r ∧
      r.body = .ofFields [("query", .ofFields [("bool", q.toDocument)])]) ∧
    ((∃ cause, (c.request (.text name) g orders window false).result = .error (.build cause)) ↔
      Window.Outside size window ∧ ∀ start ∈ window.bind (·.start), Numeral.isWritable start = true) ∧
    ((c.request (.text name) g orders window false).result = .error (.badValue .tooLongToWrite) ↔
      Window.Outside size window ∧ ∃ start ∈ window.bind (·.start), Numeral.isWritable start = false) ∧
    (¬ Window.Outside size window →
      ∃ r, (c.request (.text name) g orders window false).result = .ok r ∧
        Request.SearchBody size (.ofFields [("bool", q.toDocument)]) orders window r.body) := by
  have counts : ∃ r, (c.request (.text name) g orders window true).result = .ok r ∧
      r.body = .ofFields [("query", .ofFields [("bool", q.toDocument)])] := by
    rw [result_request lowered, if_pos rfl]
    exact ⟨_, rfl, rfl⟩
  refine ⟨counts, ?_⟩
  by_cases outside : Window.Outside size window
  · obtain ⟨start, skips, ended⟩ := request_of_outside (.text name) orders whole positive lowered outside
    have said (k : Int) : k ∈ window.bind (·.start) ↔ k = start := by
      rw [Option.mem_def.mp skips, Option.mem_some]
      exact eq_comm
    rw [ended]
    simp only [said, forall_eq, exists_eq_left, outside, true_and, not_true, false_imp_iff, and_true]
    cases Numeral.isWritable start with
    | true => simp
    | false => simp
  · obtain ⟨r, ended, body⟩ := request_of_inside name orders whole positive lowered proper outside
    rw [ended]
    simpa [outside] using body

/-- A filter of one condition. -/
def openHits : Group :=
  ⟨.and, [.leaf ⟨"status", .eq, .text "open"⟩]⟩

private theorem proper_of_start {start : Int} (whole : 0 ≤ start) :
    ∀ w ∈ some (Window.mk (some start) none), w.Proper := by
  rintro _ ⟨⟩
  refine ⟨?_, nofun⟩
  rintro _ ⟨⟩
  exact whole

/-- The last hit of a window can be asked for, and those behind it cannot. -/
theorem request_assembles_last_hit :
    (∃ r, (standard.request (.text "node") openHits [⟨"created", .ascending⟩, ⟨"title", .descending⟩]
        (some ⟨some 9999, none⟩) false).result = .ok r ∧
      Request.SearchBody 10000 (.ofFields [("bool", .ofFields [("must", .list [.ofFields
          [("term", .ofFields [("status", .text "open")])]])])])
        [⟨"created", .ascending⟩, ⟨"title", .descending⟩] (some ⟨some 9999, none⟩) r.body) ∧
    ∃ cause, (standard.request (.text "node") openHits [⟨"created", .ascending⟩, ⟨"title", .descending⟩]
        (some ⟨some 10000, none⟩) false).result = .error (.build cause) := by
  obtain ⟨q, lowered, shown⟩ : ∃ q, (openHits.lower standard.warnings).result = .ok q ∧
      q.toDocument = .ofFields [("must", .list [.ofFields
        [("term", .ofFields [("status", .text "open")])]])] := ⟨_, rfl, rfl⟩
  have inside : ¬ Window.Outside 10000 (some ⟨some 9999, none⟩) := by
    rintro ⟨_, _, ⟨⟩, late⟩
    exact absurd late (by decide)
  have written : ∀ start ∈ (some (Window.mk (some 10000) none)).bind (·.start),
      Numeral.isWritable start = true := by
    rintro _ ⟨⟩
    exact Numeral.isWritable_of_lt (k := 5) (by decide) (by decide)
  rw [← shown]
  constructor
  · exact (request_assembles rfl (by decide) lowered (proper_of_start (by decide))).2.2.2 inside
  · exact (request_assembles rfl (by decide) lowered (proper_of_start (by decide))).2.1.mpr
      ⟨⟨rfl, 10000, rfl, Int.le_refl 10000⟩, written⟩

/-- A number of hits with one digit more than can be written out. -/
def farStart : Int :=
  .ofNat (10 ^ Numeral.maxDigits)

/-- This start is behind the window, and still a search from there is not refused for it: what fails is the
message, in which the number cannot be written out. -/
theorem request_outside_unwritable :
    Window.Outside defaultWindow (some ⟨some farStart, none⟩) ∧
    (standard.request (.text "node") openHits [] (some ⟨some farStart, none⟩) false).result =
      .error (.badValue .tooLongToWrite) ∧
    ¬ ∃ cause, (standard.request (.text "node") openHits [] (some ⟨some farStart, none⟩) false).result =
      .error (.build cause) := by
  have late : defaultWindow ≤ farStart :=
    have more : 10 ^ 4 ≤ 10 ^ Numeral.maxDigits := Nat.pow_le_pow_right (by decide) (by decide)
    Int.ofNat_le.mpr more
  have outside : Window.Outside defaultWindow (some ⟨some farStart, none⟩) := ⟨rfl, _, rfl, late⟩
  have long : Numeral.isWritable farStart = false := Numeral.isWritable_ofNat_eq_false (Nat.le_refl _)
  obtain ⟨q, lowered⟩ : ∃ q, (openHits.lower standard.warnings).result = .ok q := ⟨_, rfl⟩
  have ended : (standard.request (.text "node") openHits [] (some ⟨some farStart, none⟩) false).result =
      .error (.badValue .tooLongToWrite) := by
    obtain ⟨start, skips, told⟩ :=
      request_of_outside (c := standard) (.text "node") [] rfl (by decide) lowered outside
    cases skips
    rw [told, long, if_neg Bool.false_ne_true]
  refine ⟨outside, ended, ?_⟩
  rintro ⟨cause, refused⟩
  cases ended.symm.trans refused

end Compiler

end SearchFilter
