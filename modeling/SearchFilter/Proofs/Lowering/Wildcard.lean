import SearchFilter.Proofs.Lowering.Piece

/-!
What wildcard patterns match. The patterns of the operators that look for a text at the end of a field, or
anywhere in it, are made of the text and stars, so a character of the text that means something else in a
pattern is not looked for. Main statement: such a pattern matches just the fields that it should exactly if
the text has no such character.
-/

namespace SearchFilter

namespace Wildcard

/-- A character that stands for itself in a pattern. -/
def Ordinary (c : Char) : Prop :=
  c ≠ '*' ∧ c ≠ '?' ∧ c ≠ '\\'

instance (c : Char) : Decidable (Ordinary c) :=
  inferInstanceAs (Decidable (_ ∧ _))

/-- What a pattern matches: a star any characters, a question mark any single one, and a backslash the
character behind it as it is. A backslash with none behind it stands for itself, as other characters do. -/
inductive Matches : List Char → List Char → Prop
  | done : Matches [] []
  | run (skipped : List Char) {pattern text : List Char} (rest : Matches pattern text) :
      Matches ('*' :: pattern) (skipped ++ text)
  | one (c : Char) {pattern text : List Char} (rest : Matches pattern text) :
      Matches ('?' :: pattern) (c :: text)
  | escaped (c : Char) {pattern text : List Char} (rest : Matches pattern text) :
      Matches ('\\' :: c :: pattern) (c :: text)
  | lone : Matches ['\\'] ['\\']
  | itself {c : Char} (ordinary : Ordinary c) {pattern text : List Char} (rest : Matches pattern text) :
      Matches (c :: pattern) (c :: text)

/-- A text has a value in it, with something behind it that matches the end of a pattern. -/
def Has (closing value text : List Char) : Prop :=
  ∃ before rest, text = before ++ (value ++ rest) ∧ Matches closing rest

/-- Each character of a value stands for itself in a pattern that goes on with `closing`: all of them are
ordinary, but for a backslash at the end of the whole pattern. -/
def Verbatim (closing value : List Char) : Prop :=
  ∃ plain, (∀ c ∈ plain, Ordinary c) ∧ (value = plain ∨ closing = [] ∧ value = plain ++ ['\\'])

variable {c : Char} {closing pattern shown value text : List Char}

theorem matches_nil_iff : Matches [] text ↔ text = [] := by
  constructor
  · intro found
    cases found
    rfl
  · rintro rfl
    exact .done

theorem matches_run_iff :
    Matches ('*' :: pattern) text ↔ ∃ skipped rest, text = skipped ++ rest ∧ Matches pattern rest := by
  constructor
  · intro found
    cases found with
    | run skipped rest => exact ⟨skipped, _, rfl, rest⟩
    | itself ordinary => exact absurd rfl ordinary.1
  · rintro ⟨skipped, rest, rfl, found⟩
    exact .run skipped found

theorem matches_lone_iff : Matches ['\\'] text ↔ text = ['\\'] := by
  constructor
  · intro found
    cases found with
    | lone => rfl
    | itself ordinary => exact absurd rfl ordinary.2.2
  · rintro rfl
    exact .lone

theorem matches_ordinary_iff (ordinary : Ordinary c) :
    Matches (c :: pattern) text ↔ ∃ rest, text = c :: rest ∧ Matches pattern rest := by
  constructor
  · intro found
    cases found with
    | run => exact absurd rfl ordinary.1
    | one => exact absurd rfl ordinary.2.1
    | escaped => exact absurd rfl ordinary.2.2
    | lone => exact absurd rfl ordinary.2.2
    | itself _ rest => exact ⟨_, rfl, rest⟩
  · rintro ⟨rest, rfl, found⟩
    exact .itself ordinary found

theorem matches_append_iff (ordinary : ∀ c ∈ value, Ordinary c) :
    Matches (value ++ pattern) text ↔ ∃ rest, text = value ++ rest ∧ Matches pattern rest := by
  induction value generalizing text with
  | nil => simp
  | cons c value ih =>
    have first : Ordinary c := ordinary c List.mem_cons_self
    have later := fun text => @ih text fun d present => ordinary d (List.mem_cons_of_mem c present)
    rw [List.cons_append, matches_ordinary_iff first]
    constructor
    · rintro ⟨tail, rfl, found⟩
      obtain ⟨rest, rfl, behind⟩ := (later tail).mp found
      exact ⟨rest, rfl, behind⟩
    · rintro ⟨rest, rfl, behind⟩
      exact ⟨value ++ rest, rfl, (later _).mpr ⟨rest, rfl, behind⟩⟩

/-- A value that stands for itself is the front of what is matched. -/
theorem matches_verbatim_iff (verbatim : Verbatim closing value) :
    Matches (value ++ closing) text ↔ ∃ rest, text = value ++ rest ∧ Matches closing rest := by
  obtain ⟨plain, ordinary, rfl | ⟨rfl, rfl⟩⟩ := verbatim
  · exact matches_append_iff ordinary
  · rw [List.append_nil, matches_append_iff ordinary]
    simp only [matches_lone_iff, matches_nil_iff]
    simp

theorem matches_run_verbatim_iff (verbatim : Verbatim closing value) :
    Matches ('*' :: (value ++ closing)) text ↔ Has closing value text := by
  rw [matches_run_iff]
  constructor
  · rintro ⟨before, tail, rfl, found⟩
    obtain ⟨rest, rfl, behind⟩ := (matches_verbatim_iff verbatim).mp found
    exact ⟨before, rest, rfl, behind⟩
  · rintro ⟨before, rest, rfl, behind⟩
    exact ⟨before, value ++ rest, rfl, (matches_verbatim_iff verbatim).mpr ⟨rest, rfl, behind⟩⟩

theorem Verbatim.cons (ordinary : Ordinary c) (verbatim : Verbatim closing value) :
    Verbatim closing (c :: value) := by
  obtain ⟨plain, all, same | ⟨shut, same⟩⟩ := verbatim
  · exact ⟨c :: plain, List.forall_mem_cons.mpr ⟨ordinary, all⟩, .inl (by rw [same])⟩
  · exact ⟨c :: plain, List.forall_mem_cons.mpr ⟨ordinary, all⟩, .inr ⟨shut, by rw [same]; rfl⟩⟩

/-- The end of a pattern that goes on with nothing, or with a star. -/
def Closes (closing : List Char) : Prop :=
  closing = [] ∨ closing = ['*']

theorem Closes.matches_nil (closes : Closes closing) : Matches closing [] := by
  rcases closes with rfl | rfl
  · exact .done
  · exact .run [] .done

private theorem special_or_ordinary (c : Char) : c = '*' ∨ c = '?' ∨ c = '\\' ∨ Ordinary c := by
  unfold Ordinary
  tauto

/-- A value with its own pattern characters matches a text that is no longer than the value and not the
value: a star is matched by nothing, a backslash adds nothing to the character behind it, and a question
mark is matched by another character. -/
theorem exists_short_text (closes : Closes closing) (value : List Char) :
    ∃ text, Matches (value ++ closing) text ∧ text.length ≤ value.length ∧
      (text = value → Verbatim closing value) := by
  induction size : value.length using Nat.strongRecOn generalizing value with
  | ind n ih =>
    cases value with
    | nil => exact ⟨[], closes.matches_nil, Nat.zero_le n, fun _ => ⟨[], by simp⟩⟩
    | cons c rest =>
      have whole : rest.length + 1 = n := size
      obtain ⟨text, found, short, same⟩ := ih rest.length (by omega) rest rfl
      rcases special_or_ordinary c with rfl | rfl | rfl | ordinary
      · refine ⟨text, .run [] found, by omega, ?_⟩
        rintro rfl
        exact absurd short (Nat.not_succ_le_self rest.length)
      · exact ⟨'a' :: text, .one 'a' found, by simp; omega, by simp⟩
      · cases rest with
        | nil =>
          rcases closes with rfl | rfl
          · exact ⟨['\\'], .lone, by simp [← whole], fun _ => ⟨[], by simp⟩⟩
          · exact ⟨['*'], .escaped '*' .done, by simp [← whole], by simp⟩
        | cons d rest =>
          have longer : rest.length + 2 = n := whole
          obtain ⟨text, found, short, _⟩ := ih rest.length (by omega) rest rfl
          refine ⟨d :: text, .escaped d found, by simp; omega, ?_⟩
          intro equal
          have lengths := congrArg List.length equal
          simp at lengths
          omega
      · refine ⟨c :: text, .itself ordinary found, by simp; omega, ?_⟩
        intro equal
        exact (same (List.cons.inj equal).2).cons ordinary

theorem Has.length_le (has : Has closing value text) : value.length ≤ text.length := by
  obtain ⟨before, rest, rfl, _⟩ := has
  simp only [List.length_append]
  omega

theorem Has.eq_of_length_le (has : Has closing value text) (short : text.length ≤ value.length) :
    text = value := by
  obtain ⟨before, rest, rfl, _⟩ := has
  simp only [List.length_append] at short
  have nothing : before.length = 0 ∧ rest.length = 0 := by omega
  rw [List.length_eq_zero_iff, List.length_eq_zero_iff] at nothing
  rw [nothing.1, nothing.2, List.nil_append, List.append_nil]

theorem has_self (closes : Closes closing) (value : List Char) : Has closing value value :=
  ⟨[], [], by simp, closes.matches_nil⟩

/-- A pattern that is a star with a value behind it matches what has the value exactly if the value stands
for itself. -/
theorem matches_iff_has_iff (closes : Closes closing) (value : List Char) :
    (∀ text, Matches ('*' :: (value ++ closing)) text ↔ Has closing value text) ↔
      Verbatim closing value := by
  constructor
  · intro finds
    obtain ⟨text, found, short, same⟩ := exists_short_text closes value
    have has : Has closing value text := (finds text).mp (.run [] found)
    exact same (has.eq_of_length_le short)
  · intro verbatim text
    exact matches_run_verbatim_iff verbatim

theorem eq_of_matches_iff_has (closes : Closes closing) (ordinary : ∀ c ∈ shown, Ordinary c)
    (finds : ∀ text, Matches ('*' :: (shown ++ closing)) text ↔ Has closing value text) :
    shown = value := by
  have verbatim : Verbatim closing shown := ⟨shown, ordinary, .inl rfl⟩
  have forth : Has closing value shown :=
    (finds shown).mp ((matches_run_verbatim_iff verbatim).mpr (has_self closes shown))
  have back : Has closing shown value :=
    (matches_run_verbatim_iff verbatim).mp ((finds value).mpr (has_self closes value))
  exact forth.eq_of_length_le back.length_le

theorem has_nil_iff : Has [] value text ↔ value <:+ text := by
  simp only [Has, matches_nil_iff]
  constructor
  · rintro ⟨before, _, rfl, rfl⟩
    exact ⟨before, by simp⟩
  · rintro ⟨before, rfl⟩
    exact ⟨before, [], by simp, rfl⟩

theorem has_run_iff : Has ['*'] value text ↔ value <:+: text := by
  constructor
  · rintro ⟨before, rest, rfl, _⟩
    exact ⟨before, rest, List.append_assoc before value rest⟩
  · rintro ⟨before, rest, rfl⟩
    refine ⟨before, rest, List.append_assoc before value rest, ?_⟩
    simpa using Matches.run rest .done

theorem verbatim_run_iff : Verbatim ['*'] value ↔ ∀ c ∈ value, Ordinary c := by
  simp [Verbatim]

end Wildcard

open Wildcard

namespace Lowering

variable {value : Value} {text : String}

private theorem ordinary_of_all {cs : List Char} (tested : cs.all (fun c => decide (Ordinary c)) = true) :
    ∀ c ∈ cs, Ordinary c := by
  intro c present
  exact of_decide_eq_true (List.all_eq_true.mp tested c present)

private theorem display_of_asText (said : value.asText? = some text) :
    value = .text text ∨ value ≠ .text text ∧ (∀ c ∈ value.display.toList, Ordinary c) ∧
      value.display.toList ≠ text.toList := by
  cases value with
  | text s =>
    cases said
    exact .inl rfl
  | operator op =>
    cases said
    refine .inr ⟨nofun, ordinary_of_all ?_, ?_⟩
    · cases op <;> decide
    · cases op <;> decide
  | conjunction c =>
    cases said
    refine .inr ⟨nofun, ordinary_of_all ?_, ?_⟩
    · cases c <;> decide
    · cases c <;> decide
  | _ => cases said

/-- The pattern made of a star, what is shown of a value, and an end finds the text of the value exactly if
the value is that text and stands for itself. -/
private theorem matches_display_iff {closing : List Char} (closes : Closes closing)
    (said : value.asText? = some text) :
    (∀ s, Matches ('*' :: (value.display.toList ++ closing)) s ↔ Has closing text.toList s) ↔
      value = .text text ∧ Verbatim closing text.toList := by
  rcases display_of_asText said with rfl | ⟨other, ordinary, different⟩
  · simpa [Value.display] using matches_iff_has_iff closes text.toList
  · simp only [other, false_and, iff_false]
    intro finds
    exact different (eq_of_matches_iff_has closes ordinary finds)

/-- The pattern for a text at the end of a field matches just the fields that end with the text exactly if
the characters of the text stand for themselves, where the last one may be a backslash; and the pattern for a
text anywhere in a field just those that have it exactly if all its characters stand for themselves. Words of
the vocabulary in place of a text are never found. -/
theorem patterns_find_iff (said : value.asText? = some text) (warnings : Bool)
    (conjunction : Conjunction) (field : String) (q : BoolQuery) : ∃ ending inside : String,
      (condition warnings conjunction (.text field) (.known .endsWith) value q).result =
        .ok (q.addLeaf conjunction .endsWith (.wildcard (.text field) ending)) ∧
      (condition warnings conjunction (.text field) (.known .contains) value q).result =
        .ok (q.addLeaf conjunction .contains (.wildcard (.text field) inside)) ∧
      ((∀ s : List Char, Matches ending.toList s ↔ text.toList <:+ s) ↔
        value = .text text ∧ Verbatim [] text.toList) ∧
      ((∀ s : List Char, Matches inside.toList s ↔ text.toList <:+: s) ↔
        value = .text text ∧ ∀ c ∈ text.toList, Ordinary c) := by
  refine ⟨"*" ++ value.display, "*" ++ value.display ++ "*", ?_, ?_, ?_, ?_⟩
  · rw [result_condition]
    rfl
  · rw [result_condition]
    rfl
  · have shut : Closes [] := .inl rfl
    simpa [has_nil_iff] using matches_display_iff shut said
  · have run : Closes ['*'] := .inr rfl
    simpa [has_run_iff, verbatim_run_iff] using matches_display_iff run said

/-- A text with a question mark in it. -/
theorem patterns_find_iff_mark : ∃ ending inside : String,
    (condition true .or (.text "title") (.known .endsWith) (.text "a?b") .empty).result =
      .ok (BoolQuery.empty.addLeaf .or .endsWith (.wildcard (.text "title") ending)) ∧
    (condition true .or (.text "title") (.known .contains) (.text "a?b") .empty).result =
      .ok (BoolQuery.empty.addLeaf .or .contains (.wildcard (.text "title") inside)) ∧
    ((∀ s : List Char, Matches ending.toList s ↔ "a?b".toList <:+ s) ↔
      Value.text "a?b" = .text "a?b" ∧ Verbatim [] "a?b".toList) ∧
    ((∀ s : List Char, Matches inside.toList s ↔ "a?b".toList <:+: s) ↔
      Value.text "a?b" = .text "a?b" ∧ ∀ c ∈ "a?b".toList, Ordinary c) := by
  have said : (Value.text "a?b").asText? = some "a?b" := rfl
  exact patterns_find_iff said true .or "title" .empty

/-- It is not so that the pattern for a text anywhere in a field matches just the fields that have it. -/
theorem patterns_read_marks :
    ¬ ∀ (field text pattern : String),
      (Group.lower true ⟨.and, [.leaf ⟨field, .contains, .text text⟩]⟩).result =
        .ok ⟨[.leaf (.wildcard (.text field) pattern)], [], []⟩ →
      ∀ s : List Char, Matches pattern.toList s ↔ text.toList <:+: s := by
  intro always
  have finds := always "title" "a?b" "*a?b*" rfl "axb".toList
  have found : Matches "*a?b*".toList "axb".toList :=
    .run [] (.itself (by decide) (.one 'x' (.itself (by decide) (.run [] .done))))
  exact absurd (finds.mp found) (by decide)

end Lowering

end SearchFilter
