import SearchFilter.Field.Checked

namespace SearchFilter.Field.Checked

variable {α β : Type} {x : Checked α} {a : α} {b : β}

@[simp] theorem map_eq_ok_iff {f : α → β} : x.map f = .ok b ↔ ∃ a, x = .ok a ∧ f a = b := by
  cases x <;> simp [Checked.map]

@[simp] theorem inside_eq_ok_iff {step : Step} : x.inside step = .ok a ↔ x = .ok a := by
  cases x <;> simp [inside]

@[simp] theorem andThen_eq_ok_iff {next : α → Checked β} :
    x.andThen next = .ok b ↔ ∃ a, x = .ok a ∧ next a = .ok b := by
  cases x <;> simp [andThen]

@[simp] theorem toExcept_eq_ok_iff {record : String} : x.toExcept record = .ok a ↔ x = .ok a := by
  cases x <;> simp [toExcept]

/-- Two readings side by side succeed exactly if both do. -/
theorem seq_eq_ok_iff {γ : Type} {f : α → β → γ} {y : Checked β} {c : γ} :
    f <$> x <*> y = .ok c ↔ ∃ a b, x = .ok a ∧ y = .ok b ∧ f a b = c := by
  change Checked.seq (Checked.map f x) (fun _ => y) = .ok c ↔ _
  cases x <;> cases y <;> simp [Checked.seq, Checked.map]

/-- A reading that ends with a value or with faults of what it reads, and never for another reason. -/
def Steady (x : Checked α) : Prop :=
  ∀ failure, x ≠ .stopped failure

@[simp] theorem steady_ok : (ok a).Steady := nofun

@[simp] theorem steady_fault {f : Fault} : (fault f : Checked α).Steady := nofun

theorem Steady.map (steady : x.Steady) (f : α → β) : (x.map f).Steady := by
  cases x with
  | stopped failure => exact absurd rfl (steady failure)
  | ok | faults => exact nofun

theorem Steady.inside (steady : x.Steady) (step : Step) : (x.inside step).Steady := by
  cases x with
  | stopped failure => exact absurd rfl (steady failure)
  | ok | faults => exact nofun

theorem Steady.andThen {next : α → Checked β} (steady : x.Steady) (later : ∀ a, (next a).Steady) :
    (x.andThen next).Steady := by
  cases x with
  | stopped failure => exact absurd rfl (steady failure)
  | faults => exact nofun
  | ok a => exact later a

theorem Steady.seq {γ : Type} {f : α → β → γ} {y : Checked β} (first : x.Steady) (second : y.Steady) :
    (f <$> x <*> y).Steady := by
  change (Checked.seq (Checked.map f x) fun _ => y).Steady
  cases x with
  | stopped failure => exact absurd rfl (first failure)
  | ok a => exact second.map (f a)
  | faults =>
    cases y with
    | stopped failure => exact absurd rfl (second failure)
    | ok | faults => exact nofun

end SearchFilter.Field.Checked
