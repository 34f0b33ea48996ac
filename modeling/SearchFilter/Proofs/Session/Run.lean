import SearchFilter.Proofs.Session.Directive
import SearchFilter.Proofs.Session.Reachable

namespace SearchFilter

/-- A call, with the cluster and the driver as it finds them. -/
structure Turn where
  call : Call
  cluster : Cluster
  installed : Bool

namespace Session

variable {s : Session} {t : Turn} {turns : List Turn} {id : GroupId} {cell : Cell}

/-- The session as a turn finds it. -/
def facing (s : Session) (t : Turn) : Session :=
  { s with cluster := t.cluster, installed := t.installed }

/-- The session after a turn. -/
def take (s : Session) (t : Turn) : Session :=
  ((s.facing t).perform t.call).1

/-- The session after some turns. -/
def run (s : Session) (turns : List Turn) : Session :=
  turns.foldl take s

/-- The calls of a run that give an answer. -/
def succeeded (s : Session) : List Turn → List Call
  | [] => []
  | t :: rest => (s.facing t).completed t.call ++ (s.take t).succeeded rest

@[simp] theorem run_nil : s.run [] = s := rfl

@[simp] theorem run_cons : s.run (t :: turns) = (s.take t).run turns := rfl

@[simp] theorem succeeded_cons :
    s.succeeded (t :: turns) = (s.facing t).completed t.call ++ (s.take t).succeeded turns := rfl

theorem exists_of_mem_succeeded {c : Call} (member : c ∈ s.succeeded turns) :
    ∃ t ∈ turns, t.call = c := by
  induction turns generalizing s with
  | nil => cases member
  | cons t rest ih =>
    rcases List.mem_append.mp member with member | member
    · rw [completed] at member
      split at member
      · exact ⟨t, List.mem_cons_self, (List.mem_singleton.mp member).symm⟩
      · cases member
    · obtain ⟨later, inside, same⟩ := ih member
      exact ⟨later, List.mem_cons_of_mem t inside, same⟩

theorem Reachable.take (reachable : s.Reachable) (sound : t.call.Sound) : (s.take t).Reachable :=
  (reachable.surround t.cluster t.installed).perform t.call sound

theorem Reachable.run (reachable : s.Reachable) (sound : ∀ t ∈ turns, t.call.Sound) :
    (s.run turns).Reachable := by
  induction turns generalizing s with
  | nil => exact reachable
  | cons t rest ih =>
    obtain ⟨first, later⟩ := List.forall_mem_cons.mp sound
    exact ih (reachable.take first) later

/-- A property of all conditions in the groups stays true in a run, if it holds of those that the
successful calls bring. -/
theorem every_run {P : Condition → Prop} (given : ∀ call ∈ s.succeeded turns, ∀ c ∈ call.conditions, P c)
    (every : s.groups.Every P) : (s.run turns).groups.Every P := by
  induction turns generalizing s with
  | nil => exact every
  | cons t rest ih =>
    obtain ⟨first, later⟩ := List.forall_mem_append.mp given
    refine ih later ?_
    cases answered : (s.facing t).succeeds t.call with
    | false => exact (groups_of_failed answered).symm ▸ every
    | true =>
      rw [completed, if_pos answered] at first
      exact every_perform (first t.call List.mem_cons_self) every

theorem query_take : (s.take t).query = s.query.after ((s.facing t).completed t.call) :=
  query_perform (s.facing t) t.call

theorem query_run : (s.run turns).query = s.query.after (s.succeeded turns) := by
  induction turns generalizing s with
  | nil => exact Query.after_nil.symm
  | cons t rest ih => rw [run_cons, ih, query_take, succeeded_cons, Query.after_append]

theorem root_take : (s.take t).query.root = s.query.root := by
  rw [query_take]
  rfl

/-- A group keeps its conjunction in a run, and its members in their places, followed by what the
successful calls of the run add, unless one of them assigns its members. -/
theorem cell?_run (turns : List Turn) (found : s.groups.cell? id = some cell) :
    ∃ later, (s.run turns).groups.cell? id = some later ∧ later.conjunction = cell.conjunction ∧
      ((∀ c ∈ s.succeeded turns, ¬ c.Assigns s.query.root id) → later.members =
        cell.members ++ (s.succeeded turns).filterMap (Call.addedTo? s.query.root id)) := by
  induction turns generalizing s cell with
  | nil => exact ⟨cell, found, rfl, fun _ => (List.append_nil _).symm⟩
  | cons t rest ih =>
    have present : (s.facing t).groups.cell? id = some cell := found
    obtain ⟨next, still, same, grown⟩ := cell?_perform t.call present
    obtain ⟨later, last, alike, more⟩ := ih (s := s.take t) still
    refine ⟨later, last, alike.trans same, fun keeps => ?_⟩
    obtain ⟨first, others⟩ := List.forall_mem_append.mp keeps
    rw [root_take] at more
    rw [more others, grown first, succeeded_cons, List.filterMap_append, List.append_assoc]
    rfl

/-- A new session over nodes. -/
def overNodes : Session :=
  ⟨⟨[⟨.and, []⟩]⟩, ⟨.text "node", 0, [], none, .bool false, .standard⟩, .direct, .vacant, true⟩

theorem new_overNodes : New (.text "node") .null none overNodes :=
  ⟨.direct, true, rfl⟩

end Session

end SearchFilter
