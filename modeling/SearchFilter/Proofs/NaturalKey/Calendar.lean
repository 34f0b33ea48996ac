import SearchFilter.Proofs.Calendar.Order
import SearchFilter.Proofs.NaturalKey.Numeral

namespace SearchFilter

open KeyPart NaturalKey

/-- The parts of a date in a key. -/
def Date.key (d : Date) : NaturalKey :=
  [numeral d.year, mark '-', numeral d.month, mark '-', numeral d.day]

/-- The parts of a fraction of a second, which is left out where it is nothing. -/
def TimeOfDay.fractionKey (t : TimeOfDay) : NaturalKey :=
  if t.microsecond = 0 then [] else [mark '.', numeral t.microsecond]

/-- The parts of a time of day. -/
def TimeOfDay.key (t : TimeOfDay) : NaturalKey :=
  [numeral t.hour, mark ':', numeral t.minute, mark ':', numeral t.second] ++ t.fractionKey

/-- The parts of the size of a distance: hours, minutes, and seconds where there are some. -/
def distanceKey (size : Nat) : NaturalKey :=
  [numeral (size / 3600), mark ':', numeral (size / 60 % 60)] ++
    if size % 60 = 0 then [] else [mark ':', numeral (size % 60)]

/-- The parts of a distance from universal time: its direction and its size. -/
def offsetKey (seconds : Int) : NaturalKey :=
  mark (if seconds < 0 then '-' else '+') :: distanceKey seconds.natAbs

namespace Moment

/-- The parts of a distance from universal time, if one is known. -/
def zoneKey (m : Moment) : NaturalKey :=
  m.offset.elim [] offsetKey

def key (m : Moment) : NaturalKey :=
  m.date.key ++ mark 'T' :: (m.time.key ++ m.zoneKey)

end Moment

namespace NaturalKey

variable {rest : List Char} {key : NaturalKey}

theorem ofChars_date {d : Date} (valid : d.Valid) (ends : EndsNumeral rest)
    (later : ofChars rest = .ok key) : ofChars (d.text.toList ++ rest) = .ok (d.key ++ key) := by
  obtain ⟨⟨_, year⟩, ⟨_, month⟩, ⟨_, lastDay⟩⟩ := valid
  have day : d.day ≤ 31 := by
    have bound : Calendar.daysInMonth d.year d.month ≤ 31 := by
      unfold Calendar.daysInMonth
      split_ifs <;> omega
    omega
  have hyphen : IsSeparator '-' := by decide
  have days : ofChars ('-' :: ((Calendar.padded 2 d.day).toList ++ rest)) = _ :=
    ofChars_field hyphen (by decide) (by decide) (by omega) ends later
  have months : ofChars ('-' :: ((Calendar.padded 2 d.month).toList ++ _)) = _ :=
    ofChars_field hyphen (by decide) (by decide) (by omega) (endsNumeral_cons hyphen) days
  have years : ofChars ((Calendar.padded 4 d.year).toList ++ _) = _ :=
    ofChars_padded (by decide) (by decide) (by omega) (endsNumeral_cons hyphen) months
  simpa [Date.text, Date.key] using years

private theorem ofChars_fraction {t : TimeOfDay} (valid : t.Valid) (ends : EndsNumeral rest)
    (later : ofChars rest = .ok key) :
    let text := if t.microsecond = 0 then "" else "." ++ Calendar.padded 6 t.microsecond
    ofChars (text.toList ++ rest) = .ok (t.fractionKey ++ key) ∧
      EndsNumeral (text.toList ++ rest) := by
  by_cases whole : t.microsecond = 0
  · simpa [whole, TimeOfDay.fractionKey] using ⟨later, ends⟩
  · have point : IsSeparator '.' := by decide
    have bound := valid.microsecond
    have fraction : ofChars ('.' :: ((Calendar.padded 6 t.microsecond).toList ++ rest)) = _ :=
      ofChars_field point (by decide) (by decide) (by omega) ends later
    simpa [whole, TimeOfDay.fractionKey] using And.intro fraction (endsNumeral_cons point)

theorem ofChars_time {t : TimeOfDay} (valid : t.Valid) (ends : EndsNumeral rest)
    (later : ofChars rest = .ok key) :
    ofChars ('T' :: (t.text.toList ++ rest)) = .ok (mark 'T' :: (t.key ++ key)) := by
  obtain ⟨fraction, fractionEnds⟩ := ofChars_fraction valid ends later
  obtain ⟨hour, minute, second, _⟩ := valid
  have colon : IsSeparator ':' := by decide
  have seconds : ofChars (':' :: ((Calendar.padded 2 t.second).toList ++ _)) = _ :=
    ofChars_field colon (by decide) (by decide) (by omega) fractionEnds fraction
  have minutes : ofChars (':' :: ((Calendar.padded 2 t.minute).toList ++ _)) = _ :=
    ofChars_field colon (by decide) (by decide) (by omega) (endsNumeral_cons colon) seconds
  have hours : ofChars ('T' :: ((Calendar.padded 2 t.hour).toList ++ _)) = _ :=
    ofChars_field (by decide) (by decide) (by decide) (by omega) (endsNumeral_cons colon) minutes
  simpa [TimeOfDay.text, TimeOfDay.key] using hours

private theorem ofChars_seconds (size : Nat) :
    let text := if size % 60 = 0 then "" else ":" ++ Calendar.padded 2 (size % 60)
    ofChars text.toList = .ok (if size % 60 = 0 then [] else [mark ':', numeral (size % 60)]) ∧
      EndsNumeral text.toList := by
  by_cases whole : size % 60 = 0
  · simpa [whole] using endsNumeral_nil
  · have colon : IsSeparator ':' := by decide
    have seconds : ofChars (':' :: ((Calendar.padded 2 (size % 60)).toList ++ [])) = _ :=
      ofChars_field colon (by decide) (by decide) (by omega) endsNumeral_nil ofChars_nil
    simpa [whole] using And.intro seconds (endsNumeral_cons colon)

theorem ofChars_offset {seconds : Int} (bound : seconds.natAbs < 86400) :
    ofChars (offsetText seconds).toList = .ok (offsetKey seconds) ∧
      EndsNumeral (offsetText seconds).toList := by
  obtain ⟨part, partEnds⟩ := ofChars_seconds seconds.natAbs
  have colon : IsSeparator ':' := by decide
  have sign : IsSeparator (if seconds < 0 then '-' else '+') := by
    split_ifs <;> decide
  have signText : (if seconds < 0 then "-" else "+").toList =
      [if seconds < 0 then '-' else '+'] := by
    split_ifs <;> rfl
  have minutes : ofChars (':' :: ((Calendar.padded 2 (seconds.natAbs / 60 % 60)).toList ++ _)) = _ :=
    ofChars_field colon (by decide) (by decide) (by omega) partEnds part
  have hours : ofChars ((if seconds < 0 then '-' else '+') ::
      ((Calendar.padded 2 (seconds.natAbs / 3600)).toList ++ _)) = _ :=
    ofChars_field sign (by decide) (by decide) (by omega) (endsNumeral_cons colon) minutes
  have text : (offsetText seconds).toList = (if seconds < 0 then '-' else '+') ::
      ((Calendar.padded 2 (seconds.natAbs / 3600)).toList ++
        ':' :: ((Calendar.padded 2 (seconds.natAbs / 60 % 60)).toList ++
          (if seconds.natAbs % 60 = 0 then ""
            else ":" ++ Calendar.padded 2 (seconds.natAbs % 60)).toList)) := by
    simp [offsetText, signText]
  rw [text]
  exact ⟨hours, endsNumeral_cons sign⟩

theorem ofValue_date {d : Date} (valid : d.Valid) : ofValue (.date d) = .ok d.key := by
  refine (ofValue_eq_ok_iff fun _ same => Value.noConfusion same).mpr ⟨rfl, ?_⟩
  have made := ofChars_date valid endsNumeral_nil ofChars_nil
  simpa [ofText_eq, Value.plainText, Value.asText?, Value.display] using made

/-- The key of a moment: its date, its time and its distance from universal time. -/
theorem ofValue_moment {m : Moment} (valid : m.Valid) : ofValue (.moment m) = .ok m.key := by
  obtain ⟨zone, zoneText, zoneEnds, zoneMade⟩ : ∃ zone,
      zone = (m.offset.elim "" offsetText).toList ∧
      EndsNumeral zone ∧ ofChars zone = .ok m.zoneKey := by
    cases known : m.offset with
    | none => exact ⟨_, rfl, by simp [endsNumeral_nil], by simp [Moment.zoneKey, known]⟩
    | some seconds =>
      obtain ⟨made, ends⟩ := ofChars_offset (valid.offset seconds known)
      exact ⟨_, rfl, ends, by simpa [Moment.zoneKey, known] using made⟩
  have separator : IsSeparator 'T' := by decide
  have times := ofChars_time valid.time zoneEnds zoneMade
  have dates := ofChars_date valid.date (endsNumeral_cons separator) times
  have text : m.text.toList = m.date.text.toList ++ 'T' :: (m.time.text.toList ++ zone) := by
    rw [zoneText, Moment.text, Moment.textWith]
    cases m.offset <;> simp
  refine (ofValue_eq_ok_iff fun _ same => Value.noConfusion same).mpr ⟨rfl, ?_⟩
  rw [ofText_eq, Value.plainText, text, dates]
  rfl

end NaturalKey

variable {a b : NaturalKey}

theorem Date.rank_key_append_lt_iff {d e : Date} :
    rank (d.key ++ a) < rank (e.key ++ b) ↔
      d.fields < e.fields ∨ d.fields = e.fields ∧ rank a < rank b := by
  simp only [Date.key, Date.fields, List.cons_append, List.nil_append, rank_cons,
    List.cons_lt_cons_iff, rank_numeral_lt_iff, rank_numeral_inj, lt_irrefl, true_and, false_or,
    List.cons.injEq, and_true, and_false, or_false]
  tauto

theorem Date.rank_key_lt_iff {d e : Date} : rank d.key < rank e.key ↔ d.fields < e.fields := by
  have compared := rank_key_append_lt_iff (d := d) (e := e) (a := []) (b := [])
  simpa using compared

/-- What may follow the time of day in a key: nothing, or a sign that comes before the point of a
fraction. -/
def OpensZone (key : NaturalKey) : Prop :=
  ∀ x ∈ key.head?, ∃ c, x = mark c ∧ c < '.'

theorem OpensZone.rank_lt (opens : OpensZone a) (rest : NaturalKey) :
    rank a < (mark '.').rank :: rank rest := by
  cases a with
  | nil => exact List.nil_lt_cons _ _
  | cons x tail =>
    obtain ⟨c, rfl, before⟩ := opens x rfl
    rw [rank_cons, List.cons_lt_cons_iff]
    exact .inl (rank_mark_lt_iff.mpr before)

/-- A fraction of a second counts before what follows it, also where it is left out. -/
theorem TimeOfDay.rank_fractionKey_append_lt_iff {t u : TimeOfDay} (opensA : OpensZone a)
    (opensB : OpensZone b) :
    rank (t.fractionKey ++ a) < rank (u.fractionKey ++ b) ↔
      t.microsecond < u.microsecond ∨ t.microsecond = u.microsecond ∧ rank a < rank b := by
  by_cases wholeT : t.microsecond = 0
  · by_cases wholeU : u.microsecond = 0
    · simp [fractionKey, wholeT, wholeU]
    · have less := opensA.rank_lt (numeral u.microsecond :: b)
      rw [rank_cons] at less
      simp [fractionKey, wholeT, wholeU, less, Nat.pos_of_ne_zero]
  · by_cases wholeU : u.microsecond = 0
    · have greater := opensB.rank_lt (numeral t.microsecond :: a)
      rw [rank_cons] at greater
      simp [fractionKey, wholeT, wholeU, greater.le]
    · simp [fractionKey, wholeT, wholeU, List.cons_lt_cons_iff]

theorem TimeOfDay.rank_key_append_lt_iff {t u : TimeOfDay} (opensA : OpensZone a)
    (opensB : OpensZone b) :
    rank (t.key ++ a) < rank (u.key ++ b) ↔
      t.fields < u.fields ∨ t.fields = u.fields ∧ rank a < rank b := by
  simp only [TimeOfDay.key, TimeOfDay.fields, List.cons_append, List.nil_append, rank_cons,
    List.cons_lt_cons_iff, rank_numeral_lt_iff, rank_numeral_inj, lt_irrefl, true_and, false_or,
    rank_fractionKey_append_lt_iff opensA opensB, List.cons.injEq, and_true, and_false, or_false]
  tauto

theorem rank_distanceKey_lt_iff {first second : Nat} :
    rank (distanceKey first) < rank (distanceKey second) ↔ first < second := by
  have seconds : rank (if first % 60 = 0 then [] else [mark ':', numeral (first % 60)]) <
      rank (if second % 60 = 0 then [] else [mark ':', numeral (second % 60)]) ↔
        first % 60 < second % 60 := by
    by_cases wholeFirst : first % 60 = 0
    · by_cases wholeSecond : second % 60 = 0
      · simp [wholeFirst, wholeSecond]
      · simp [wholeFirst, wholeSecond, Nat.pos_of_ne_zero]
    · by_cases wholeSecond : second % 60 = 0
      · simp [wholeFirst, wholeSecond]
      · simp [wholeFirst, wholeSecond, List.cons_lt_cons_iff]
  simp only [distanceKey, List.cons_append, List.nil_append, rank_cons, List.cons_lt_cons_iff,
    rank_numeral_lt_iff, rank_numeral_inj, lt_irrefl, true_and, false_or, seconds]
  omega

/-- Distances from universal time are in natural order by their direction, east before west, and then
by their size. -/
theorem rank_offsetKey_lt_iff {first second : Int} :
    rank (offsetKey first) < rank (offsetKey second) ↔
      0 ≤ first ∧ second < 0 ∨ (first < 0 ↔ second < 0) ∧ first.natAbs < second.natAbs := by
  have east : ('+' : Char) < '-' := by decide
  rw [offsetKey, offsetKey, rank_cons, rank_cons, List.cons_lt_cons_iff, rank_mark_lt_iff,
    rank_mark_inj, rank_distanceKey_lt_iff]
  by_cases westFirst : first < 0
  · by_cases westSecond : second < 0
    · simp [westFirst, westSecond]
    · simp [westFirst, westSecond]
  · by_cases westSecond : second < 0
    · simp [westFirst, westSecond, east, not_lt.mp westFirst]
    · simp [westFirst, westSecond]

namespace Moment

variable {m n : Moment}

theorem opensZone_zoneKey (m : Moment) : OpensZone m.zoneKey := by
  intro x first
  cases known : m.offset with
  | none => simp [zoneKey, known] at first
  | some seconds =>
    simp only [zoneKey, known, Option.elim_some, offsetKey, List.head?_cons, Option.mem_def,
      Option.some.injEq] at first
    refine ⟨_, first.symm, ?_⟩
    split_ifs <;> decide

/-- Moments are in natural order as their clocks read, and between equal readings as the texts of their
distances from universal time. -/
theorem rank_key_lt_iff (validM : m.Valid) (validN : n.Valid) :
    rank m.key < rank n.key ↔ m.reading < n.reading ∨
      m.reading = n.reading ∧ rank m.zoneKey < rank n.zoneKey := by
  have fields_eq : m.fields = n.fields ↔
      m.date.fields = n.date.fields ∧ m.time.fields = n.time.fields := by
    simp [fields, Date.fields, and_assoc]
  rw [reading_lt_iff validM validN, reading_eq_iff validM validN, fields_lt_iff, fields_eq, key, key,
    Date.rank_key_append_lt_iff, rank_cons, rank_cons, List.cons_lt_cons_iff,
    TimeOfDay.rank_key_append_lt_iff m.opensZone_zoneKey n.opensZone_zoneKey]
  simp only [lt_irrefl, false_or, true_and]
  tauto

end Moment

end SearchFilter
