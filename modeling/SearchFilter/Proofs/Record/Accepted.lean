import SearchFilter.Proofs.Checked
import SearchFilter.Proofs.Condition.Shape
import SearchFilter.Proofs.Tree
import SearchFilter.Tree.Record

namespace SearchFilter.Record

variable {conjunction : Conjunction × Nat} {reading : Reading}

/-- A tree all of whose conditions were accepted. -/
def Reading.Sound (reading : Reading) : Prop :=
  ∀ c ∈ reading.tree.conditions, c.Accepted

theorem sound_assemble {members : Option (List Reading)}
    (each : ∀ readings, members = some readings → ∀ reading ∈ readings, reading.Sound) :
    (assemble conjunction members).Sound := by
  cases members with
  | none =>
    intro c inside
    cases inside
  | some readings =>
    refine Tree.forall_conditionsOf.mpr fun t member => ?_
    obtain ⟨reading, present, rfl⟩ := List.mem_map.mp member
    exact each readings rfl reading present

theorem sound_prefer {c : Condition} {group : Field.Checked Reading} (accepted : c.Accepted)
    (sound : ∀ reading, group = .ok reading → reading.Sound)
    (preferred : prefer c group = .ok reading) : reading.Sound := by
  have single : Reading.Sound ⟨.leaf c, conditionFields⟩ :=
    Tree.forall_conditions_leaf.mpr accepted
  cases group with
  | stopped failure => cases preferred
  | faults details =>
    cases preferred
    exact single
  | ok better =>
    unfold prefer at preferred
    simp only at preferred
    split at preferred
    · cases preferred
      exact sound _ rfl
    · cases preferred
      exact single

theorem sound_orGroup {group : Field.Checked Reading} (sound : ∀ reading, group = .ok reading → reading.Sound)
    (read : orGroup group = .ok reading) : reading.Sound := by
  cases group with
  | ok better =>
    cases read
    exact sound _ rfl
  | faults | stopped => cases read

mutual

theorem sound_member : ∀ (value : Value) (reading : Reading), member value = .ok reading →
    reading.Sound
  | .map entries, reading, read => by
    have group : ∀ reading,
        (assemble <$> readConjunction entries <*> members? entries) = .ok reading → reading.Sound := by
      intro reading assembled
      obtain ⟨conjunction, members, _, found, rfl⟩ := Field.Checked.seq_eq_ok_iff.mp assembled
      refine sound_assemble fun readings same => ?_
      cases same
      exact sound_members? entries readings found
    unfold member at read
    split at read
    · exact sound_orGroup group read
    · cases read
    · next c made => exact sound_prefer ⟨_, _, _, made⟩ group read
termination_by structural value => value

theorem sound_members? : ∀ (entries : List (Value × Value)) (readings : List Reading),
    members? entries = .ok (some readings) → ∀ reading ∈ readings, reading.Sound
  | entry :: rest, readings, read => by
    unfold members? at read
    split at read
    · next listed found =>
      obtain ⟨_, read, same⟩ := Field.Checked.map_eq_ok_iff.mp read
      cases same
      exact sound_listed? entry readings (found.trans (congrArg some read))
    · exact sound_members? rest readings read
termination_by structural entries => entries

theorem sound_listed? : ∀ (entry : Value × Value) (readings : List Reading),
    listed? entry = some (.ok readings) → ∀ reading ∈ readings, reading.Sound
  | (key, value), readings, read => by
    unfold listed? at read
    split at read
    · split at read
      · exact sound_items value readings
          (Field.Checked.inside_eq_ok_iff.mp (Option.some.inj read))
      · cases read
    · cases read
termination_by structural entry => entry

theorem sound_items : ∀ (value : Value) (readings : List Reading), items value = .ok readings →
    ∀ reading ∈ readings, reading.Sound
  | .list items, readings, read | .tuple items, readings, read | .set items, readings, read =>
    sound_readings items 0 readings read
termination_by structural value => value

theorem sound_readings : ∀ (items : List Value) (index : Nat) (found : List Reading),
    readings index items = .ok found → ∀ reading ∈ found, reading.Sound
  | [], _, found, read => by
    cases read
    exact List.forall_mem_nil _
  | item :: rest, index, found, read => by
    obtain ⟨first, later, head, tail, rfl⟩ := Field.Checked.seq_eq_ok_iff.mp read
    refine List.forall_mem_cons.mpr ⟨?_, sound_readings rest (index + 1) later tail⟩
    exact sound_member item first (Field.Checked.inside_eq_ok_iff.mp head)
termination_by structural items => items

end

end SearchFilter.Record
