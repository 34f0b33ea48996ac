namespace SearchFilter.Text

/-- A text of ASCII characters. -/
def IsAscii (s : String) : Prop :=
  ∀ c ∈ s.toList, c.toNat < 128

instance (s : String) : Decidable (IsAscii s) :=
  List.decidableBAll (fun c : Char => c.toNat < 128) s.toList

variable {s t : String} {chars : List Char}

@[simp] theorem isAscii_append : IsAscii (s ++ t) ↔ IsAscii s ∧ IsAscii t := by
  simp only [IsAscii, String.toList_append, List.forall_mem_append]

@[simp] theorem isAscii_ofList : IsAscii (String.ofList chars) ↔ ∀ c ∈ chars, c.toNat < 128 := by
  rw [IsAscii, String.toList_ofList]

theorem isAscii_ite {p : Prop} [Decidable p] (first : IsAscii s) (second : IsAscii t) :
    IsAscii (if p then s else t) := by
  split
  · exact first
  · exact second

theorem isAscii_intercalate {between : String} (gap : IsAscii between) {parts : List String}
    (each : ∀ part ∈ parts, IsAscii part) : IsAscii (between.intercalate parts) := by
  induction parts with
  | nil => exact List.forall_mem_nil _
  | cons part rest ih =>
    obtain ⟨head, tail⟩ := List.forall_mem_cons.mp each
    cases rest with
    | nil => simpa using head
    | cons next later =>
      rw [String.intercalate_cons_cons, isAscii_append, isAscii_append]
      exact ⟨⟨head, gap⟩, ih tail⟩

theorem ascii_of_isDigit {c : Char} (digit : c.isDigit = true) : c.toNat < 128 := by
  have range : 48 ≤ c.toNat ∧ c.toNat ≤ 57 := by
    simpa [Char.isDigit, UInt32.le_iff_toNat_le] using digit
  omega

theorem isAscii_nat (n : Nat) : IsAscii (toString n) := by
  intro c member
  rw [Nat.toString_eq_repr, Nat.toList_repr] at member
  exact ascii_of_isDigit (Nat.isDigit_of_mem_toDigits (by decide) (by decide) member)

theorem isAscii_int (n : Int) : IsAscii (toString n) := by
  cases n with
  | ofNat n => exact isAscii_nat n
  | negSucc n => exact isAscii_append.mpr ⟨by decide, isAscii_nat _⟩

end SearchFilter.Text
