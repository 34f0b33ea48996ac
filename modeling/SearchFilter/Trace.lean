import SearchFilter.Failure
import SearchFilter.LogRecord

/-!
Results with what happened on the way. What happened before a failure stays.
-/

namespace SearchFilter

/-- The events of a run in order, and its result. -/
structure Trace (ε α : Type) where
  events : List ε
  result : Except Failure α

namespace Trace

variable {ε δ α β : Type}

protected def pure (a : α) : Trace ε α :=
  ⟨[], .ok a⟩

protected def bind (t : Trace ε α) (next : α → Trace ε β) : Trace ε β :=
  match t.result with
  | .error failure => ⟨t.events, .error failure⟩
  | .ok a => ⟨t.events ++ (next a).events, (next a).result⟩

instance : Monad (Trace ε) where
  pure := Trace.pure
  bind := Trace.bind

/-- One event. -/
def emit (event : ε) : Trace ε Unit :=
  ⟨[event], .ok ()⟩

def fail (failure : Failure) : Trace ε α :=
  ⟨[], .error failure⟩

/-- A result without events. -/
def lift (result : Except Failure α) : Trace ε α :=
  ⟨[], result⟩

/-- The same run with each event seen as another. -/
def mapEvents (f : ε → δ) (t : Trace ε α) : Trace δ α :=
  ⟨t.events.map f, t.result⟩

@[simp] theorem events_pure (a : α) : (pure a : Trace ε α).events = [] := rfl

@[simp] theorem result_pure (a : α) : (pure a : Trace ε α).result = .ok a := rfl

@[simp] theorem events_emit (event : ε) : (emit event).events = [event] := rfl

@[simp] theorem result_emit (event : ε) : (emit event).result = .ok () := rfl

@[simp] theorem events_fail (failure : Failure) : (fail failure : Trace ε α).events = [] := rfl

@[simp] theorem result_fail (failure : Failure) :
    (fail failure : Trace ε α).result = .error failure := rfl

@[simp] theorem events_lift (result : Except Failure α) :
    (lift result : Trace ε α).events = [] := rfl

@[simp] theorem result_lift (result : Except Failure α) :
    (lift result : Trace ε α).result = result := rfl

@[simp] theorem events_mapEvents (f : ε → δ) (t : Trace ε α) :
    (t.mapEvents f).events = t.events.map f := rfl

@[simp] theorem result_mapEvents (f : ε → δ) (t : Trace ε α) :
    (t.mapEvents f).result = t.result := rfl

/-- The result of two runs, one after another, does not depend on what happened on the way. -/
theorem result_bind (t : Trace ε α) (next : α → Trace ε β) :
    (t >>= next).result = t.result >>= fun a => (next a).result := by
  change (Trace.bind t next).result = _
  unfold Trace.bind
  cases t.result <;> rfl

theorem bind_of_ok {t : Trace ε α} {a : α} (next : α → Trace ε β) (done : t.result = .ok a) :
    t >>= next = ⟨t.events ++ (next a).events, (next a).result⟩ := by
  change Trace.bind t next = _
  unfold Trace.bind
  rw [done]

theorem bind_of_error {t : Trace ε α} {failure : Failure} (next : α → Trace ε β)
    (failed : t.result = .error failure) : t >>= next = ⟨t.events, .error failure⟩ := by
  change Trace.bind t next = _
  unfold Trace.bind
  rw [failed]

theorem events_bind_pure (t : Trace ε α) (f : α → β) :
    (t >>= fun a => (pure (f a) : Trace ε β)).events = t.events := by
  cases ran : t.result with
  | error failure => rw [bind_of_error _ ran]
  | ok a => rw [bind_of_ok _ ran, events_pure, List.append_nil]

/-- What is so of no events and of the events of a run is so when a result comes before the run. -/
theorem events_lift_bind {P : List ε → Prop} {result : Except Failure α} {next : α → Trace ε β}
    (silent : P []) (later : ∀ a, result = .ok a → P (next a).events) :
    P (lift result >>= next).events := by
  cases result with
  | error failure => exact silent
  | ok a => exact later a rfl

/-- What happened in the first of two runs happened before all else. -/
theorem events_prefix_bind (t : Trace ε α) (next : α → Trace ε β) :
    t.events <+: (t >>= next).events := by
  change _ <+: (Trace.bind t next).events
  unfold Trace.bind
  cases t.result with
  | error _ => exact List.prefix_refl _
  | ok a => exact List.prefix_append _ _

end Trace

end SearchFilter
