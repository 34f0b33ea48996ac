import SearchFilter.Proofs.Request.Assembly

/-!
Documents whose sort is one directive that is not written in a list. Such a sort is gone through like a
list, a text by its characters and a mapping by its keys, and every item is a field in its own right. Main
statement: the query is formed, and its search sorts by the last item of the sort, so it sorts as the
directive says exactly if that item is the field that is meant.
-/

namespace SearchFilter

namespace Declarative

variable {entries : List (Value × Value)} {sorts : Value} {settings : Option Settings} {meant : HitOrder}
  {name last : String}

/-- A sort that is one directive, written without a list: the name of a field, or a mapping of a field and a
direction in either order. It means an order of hits, and has a last item. -/
inductive Bare : Value → HitOrder → String → Prop
  | text {t : String} {c : Char} (ends : t.toList.getLast? = some c) :
      Bare (.text t) ⟨t, .ascending⟩ (String.singleton c)
  | fieldFirst {t : String} {d : Value} {direction : SortDirection} (full : t ≠ "")
      (directed : Field.readText (Query.directionOf d) = .ok direction.name) :
      Bare (.ofFields [("field", .text t), ("direction", d)]) ⟨t, direction⟩ "direction"
  | directionFirst {t : String} {d : Value} {direction : SortDirection} (full : t ≠ "")
      (directed : Field.readText (Query.directionOf d) = .ok direction.name) :
      Bare (.ofFields [("direction", d), ("field", .text t)]) ⟨t, direction⟩ "field"

theorem sortsBy_text (full : name ≠ "") : SortsBy (.text name) ⟨name, .ascending⟩ :=
  ⟨_, _, .field rfl, rfl, full, rfl⟩

/-- The items of such a sort are fields, of which the last one is the last item. -/
theorem Bare.items (bare : Bare sorts meant last) : ∃ items orders, sortItems? sorts = some items ∧
    List.Forall₂ SortsBy items orders ∧ orders.getLast? = some ⟨last, .ascending⟩ := by
  cases bare with
  | @text t c ends =>
    have full : t ≠ "" := by
      rintro rfl
      cases ends
    refine ⟨t.toList.map fun c => .text (String.singleton c),
      t.toList.map fun c => ⟨String.singleton c, .ascending⟩, ?_, ?_, ?_⟩
    · simp [sortItems?, Value.isTruthy, full, Value.items?, Value.asText?]
    · rw [List.forall₂_map_left_iff, List.forall₂_map_right_iff]
      exact List.forall₂_same.mpr fun c _ => sortsBy_text (by simp)
    · rw [List.getLast?_map, ends, Option.map_some]
  | fieldFirst | directionFirst =>
    exact ⟨_, _, rfl, .cons (sortsBy_text (by decide)) (.cons (sortsBy_text (by decide)) .nil), rfl⟩

/-- A document that is otherwise in order and does not count forms a query also if its sort is one directive
without a list. Its request is that of a list of the last item alone: the last character of a text, or the
last key of a mapping, ascending. So the search is sorted as the directive says exactly if that item is the
field that is meant, and the direction is up. -/
theorem bare_sort_takes_last_item {g : Group} {window : Option Window} (named : name ≠ "")
    (valid : ∀ s ∈ settings, s.Valid) (described : Group.ofDocument (.map entries) = .ok g)
    (windowed : Windowed (Document.given "range" entries) window)
    (searches : (Document.given "count" entries).isTruthy = false)
    (bare : Bare (Document.given "sort" entries) meant last) :
    ∃ groups query, build (.map entries) (.text name) settings = .ok (groups, query) ∧
      query.request groups = (Compiler.ofSettings settings).request (.text name) g [⟨last, .ascending⟩]
        window false ∧
      ∀ r, (query.request groups).result = .ok r →
        (r.sort = some meant.toDocument ↔ meant = ⟨last, .ascending⟩) := by
  have truthy : (Value.text name).isTruthy = true := by simpa [Value.isTruthy] using named
  obtain ⟨items, orders, listed, each, ends⟩ := bare.items
  have asks : (Compiler.ofSettings settings).request (.text name) g orders window false =
      (Compiler.ofSettings settings).request (.text name) g [⟨last, .ascending⟩] window false := by
    rw [← Compiler.request_getLast?, ends, Option.toList_some]
  refine ⟨_, _, (build_eq_ok_iff truthy valid).mpr
    ⟨g, items, orders, window, described, listed, each, windowed, rfl⟩, ?_, ?_⟩
  · rw [request_built, searches, asks]
  · intro r made
    rw [request_built, searches, asks] at made
    have sorted : r.sort = some (HitOrder.toDocument ⟨last, .ascending⟩) := Compiler.sort_of_request made
    rw [sorted, Option.some.injEq, HitOrder.toDocument_inj, eq_comm]

/-- A document of nothing but a sort. -/
def sortedBy (sorts : Value) : List (Value × Value) :=
  [(.text "sort", sorts)]

theorem bare_sort_takes_last_letter : ∃ groups query,
    build (.map (sortedBy (.text "created"))) (.text "node") none = .ok (groups, query) ∧
      query.request groups =
        Compiler.standard.request (.text "node") ⟨.and, []⟩ [⟨"d", .ascending⟩] none false ∧
      ∀ r, (query.request groups).result = .ok r →
        (r.sort = some (HitOrder.toDocument ⟨"created", .ascending⟩) ↔
          (⟨"created", .ascending⟩ : HitOrder) = ⟨"d", .ascending⟩) := by
  have ends : "created".toList.getLast? = some 'd' := by decide
  exact bare_sort_takes_last_item (by decide) (by simp) rfl (.unsaid rfl) rfl (.text ends)

/-- Searches that are sorted by another field than the one that was meant: by `d` in place of `created`, and
by `direction` in place of `title`. -/
theorem bare_sort_misses_field :
    (∃ groups query r,
      build (.map (sortedBy (.text "created"))) (.text "node") none = .ok (groups, query) ∧
        (query.request groups).result = .ok r ∧
        r.sort = some (HitOrder.toDocument ⟨"d", .ascending⟩) ∧
        r.sort ≠ some (HitOrder.toDocument ⟨"created", .ascending⟩)) ∧
    ∃ groups query r,
      build (.map (sortedBy (.ofFields [("field", .text "title"), ("direction", .text "desc")])))
          (.text "node") none = .ok (groups, query) ∧
        (query.request groups).result = .ok r ∧
        r.sort = some (HitOrder.toDocument ⟨"direction", .ascending⟩) ∧
        r.sort ≠ some (HitOrder.toDocument ⟨"title", .descending⟩) := by
  have apart (order other : HitOrder) (unequal : order ≠ other) :
      some order.toDocument ≠ some other.toDocument :=
    fun same => unequal (HitOrder.toDocument_inj.mp (Option.some.inj same))
  constructor
  · exact ⟨_, _, _, rfl, rfl, rfl, apart ⟨"d", .ascending⟩ _ (by decide)⟩
  · exact ⟨_, _, _, rfl, rfl, rfl, apart ⟨"direction", .ascending⟩ _ (by decide)⟩

end Declarative

end SearchFilter
