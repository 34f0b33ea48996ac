import Mathlib.Data.List.Forall2
import Mathlib.Logic.Relation
import SearchFilter.Operator.Reading
import SearchFilter.Proofs.Text.Ascii

/-!
Spellings of operators. A text may be edited in the case of its letters and in its blanks without naming
another operator. Main statement: a text and an edited form of it name one operator or none, and two ASCII
texts that name one operator are edited forms of each other, or of the two names of inequality.
-/

namespace SearchFilter

namespace Text

open Relation (ReflTransGen)

variable {s t before after word run old new : List Char} {c d : Char}

/-- Two characters are one letter in any case; only letters of ASCII have a case here. -/
def SameLetter (c d : Char) : Prop :=
  c.toUpper = d.toUpper

/-- Some blanks, and nothing else. -/
def IsGap (run : List Char) : Prop :=
  run ≠ [] ∧ ∀ c ∈ run, isBlank c = true

/-- One edit of case or blanks: a letter in its other case, a blank more or less at an end, or other blanks
in place of some. -/
inductive Edit : List Char → List Char → Prop
  | recase (before after : List Char) {c d : Char} (same : SameLetter c d) :
      Edit (before ++ c :: after) (before ++ d :: after)
  | indent (s : List Char) {c : Char} (blank : isBlank c = true) : Edit s (c :: s)
  | dedent (s : List Char) {c : Char} (blank : isBlank c = true) : Edit (c :: s) s
  | pad (s : List Char) {c : Char} (blank : isBlank c = true) : Edit s (s ++ [c])
  | trim (s : List Char) {c : Char} (blank : isBlank c = true) : Edit (s ++ [c]) s
  | space (before after : List Char) {old new : List Char} (was : IsGap old) (becomes : IsGap new) :
      Edit (before ++ old ++ after) (before ++ new ++ after)

/-- A text becomes another one by edits of case and blanks. -/
def Respelt (s t : String) : Prop :=
  ReflTransGen Edit s.toList t.toList

/-! ### What an edit leaves alone -/

theorem toUpper_cases (c : Char) :
    c.toUpper = c ∨ 97 ≤ c.toNat ∧ c.toNat ≤ 122 ∧ c.toUpper.toNat + 32 = c.toNat := by
  unfold Char.toUpper
  split
  · next lower =>
    have low : 97 ≤ c.val.toNat := UInt32.le_iff_toNat_le.mp lower.1
    have high : c.val.toNat ≤ 122 := UInt32.le_iff_toNat_le.mp lower.2
    have shifted : (c.val + ('A'.val - 'a'.val)).toNat + 32 = c.val.toNat := by
      rw [UInt32.toNat_add]
      change (c.val.toNat + 4294967264) % 4294967296 + 32 = _
      omega
    exact .inr ⟨low, high, shifted⟩
  · exact .inl rfl

theorem sameLetter_cases (same : SameLetter c d) :
    c = d ∨ (65 ≤ c.toNat ∧ c.toNat ≤ 122) ∧ 65 ≤ d.toNat ∧ d.toNat ≤ 122 := by
  unfold SameLetter at same
  rcases toUpper_cases c with fixed | ⟨low, high, shift⟩
  · rcases toUpper_cases d with also | ⟨low', high', shift'⟩
    · exact .inl (fixed.symm.trans (same.trans also))
    · rw [fixed] at same
      rw [← same] at shift'
      omega
  · rcases toUpper_cases d with also | ⟨low', high', _⟩
    · rw [also] at same
      rw [same] at shift
      omega
    · omega

theorem upperChar_of_sameLetter (same : SameLetter c d) : upperChar c = upperChar d := by
  rcases sameLetter_cases same with rfl | ⟨⟨_, low⟩, _, low'⟩
  · rfl
  · rw [upperChar, if_pos (by omega), upperChar, if_pos (by omega), same]

theorem isBlank_of_sameLetter (same : SameLetter c d) : isBlank c = isBlank d := by
  have plain (e : Char) (low : 65 ≤ e.toNat) (high : e.toNat ≤ 122) : isBlank e = false := by
    simp [isBlank]
    omega
  rcases sameLetter_cases same with rfl | ⟨⟨low, high⟩, low', high'⟩
  · rfl
  · rw [plain c low high, plain d low' high']

theorem upper_of_sameLetters (same : List.Forall₂ SameLetter s t) : upper s = upper t := by
  induction same with
  | nil => rfl
  | cons first _ ih =>
    simp only [upper, List.flatMap_cons] at ih ⊢
    rw [upperChar_of_sameLetter first, ih]

theorem upper_wordsAfter {word' : List Char} (begun : List.Forall₂ SameLetter word word')
    (same : List.Forall₂ SameLetter s t) :
    (wordsAfter word s).map upper = (wordsAfter word' t).map upper := by
  have finished {w w' : List Char} (alike : List.Forall₂ SameLetter w w') :
      upper w.reverse = upper w'.reverse :=
    upper_of_sameLetters (List.forall₂_reverse_iff.mpr alike)
  have empty {w w' : List Char} (alike : List.Forall₂ SameLetter w w') : w.isEmpty = w'.isEmpty := by
    cases alike <;> rfl
  induction same generalizing word word' with
  | nil =>
    simp only [wordsAfter, empty begun]
    split
    · rfl
    · simp [finished begun]
  | cons first _ ih =>
    simp only [wordsAfter, empty begun, isBlank_of_sameLetter first]
    split
    · split
      · exact ih .nil
      · rw [List.map_cons, List.map_cons, finished begun, ih .nil]
    · exact ih (.cons first begun)

theorem wordsAfter_append_blank (blank : isBlank c = true) :
    wordsAfter word (before ++ c :: after) = wordsAfter word before ++ words after := by
  induction before generalizing word with
  | nil =>
    simp only [List.nil_append, wordsAfter, blank, if_true, words]
    split
    · rfl
    · rfl
  | cons d rest ih =>
    simp only [List.cons_append, wordsAfter]
    split
    · split
      · exact ih
      · rw [ih, List.cons_append]
    · exact ih

theorem words_append_blank (blank : isBlank c = true) :
    words (before ++ c :: after) = words before ++ words after :=
  wordsAfter_append_blank blank

theorem words_cons_blank (blank : isBlank c = true) : words (c :: s) = words s := by
  simp [words, wordsAfter, blank]

theorem words_gap_append (blanks : ∀ c ∈ run, isBlank c = true) : words (run ++ after) = words after := by
  induction run with
  | nil => rfl
  | cons c rest ih =>
    rw [List.forall_mem_cons] at blanks
    rw [List.cons_append, words_cons_blank blanks.1, ih blanks.2]

theorem words_append_gap (gap : IsGap run) :
    words (before ++ run ++ after) = words before ++ words after := by
  obtain ⟨c, rest, rfl⟩ := List.exists_cons_of_ne_nil gap.1
  have blanks := List.forall_mem_cons.mp gap.2
  rw [List.append_assoc, List.cons_append, words_append_blank blanks.1, words_gap_append blanks.2]

theorem Edit.upper_words (edit : Edit s t) : (words s).map upper = (words t).map upper := by
  cases edit with
  | recase before after same =>
    have all (e : List Char) : List.Forall₂ SameLetter e e := List.forall₂_same.mpr fun _ _ => rfl
    exact upper_wordsAfter .nil (List.rel_append (all before) (.cons same (all after)))
  | indent _ blank | dedent _ blank => rw [words_cons_blank blank]
  | pad _ blank | trim _ blank =>
    rw [words_append_blank blank]
    simp [words, wordsAfter]
  | space _ _ was becomes => rw [words_append_gap was, words_append_gap becomes]

theorem upper_intercalate (ws : List (List Char)) :
    upper ([' '].intercalate ws) = [' '].intercalate (ws.map upper) := by
  induction ws with
  | nil => rfl
  | cons w rest ih =>
    cases rest with
    | nil => simp
    | cons v more =>
      rw [List.intercalate_cons_cons, List.map_cons, List.map_cons, List.intercalate_cons_cons,
        ← List.map_cons, ← ih]
      simp only [upper, List.flatMap_append]
      rfl

theorem Edit.upper_collapse (edit : Edit s t) : upper (collapse s) = upper (collapse t) := by
  rw [collapse, collapse, upper_intercalate, upper_intercalate, edit.upper_words]

theorem upper_collapse_of_edits (edits : ReflTransGen Edit s t) :
    upper (collapse s) = upper (collapse t) := by
  induction edits with
  | refl => rfl
  | tail _ edit ih => exact ih.trans edit.upper_collapse

/-! ### What edits can reach -/

theorem Edit.symm (edit : Edit s t) : Edit t s := by
  cases edit with
  | recase before after same => exact .recase before after same.symm
  | indent s blank => exact .dedent s blank
  | dedent s blank => exact .indent t blank
  | pad s blank => exact .trim s blank
  | trim s blank => exact .pad t blank
  | space before after was becomes => exact .space before after becomes was

theorem edits_symm (edits : ReflTransGen Edit s t) : ReflTransGen Edit t s := by
  induction edits with
  | refl => exact .refl
  | tail _ edit ih => exact .head edit.symm ih

theorem isGap_singleton (blank : isBlank c = true) : IsGap [c] :=
  ⟨List.cons_ne_nil _ _, by simpa using blank⟩

theorem isGap_pair (first : isBlank c = true) (second : isBlank d = true) : IsGap [c, d] :=
  ⟨List.cons_ne_nil _ _, by simp [first, second]⟩

/-- An edit behind a blank: what it does to the start of the text it now does to the gap before it. -/
theorem Edit.behind (edit : Edit s t) (before : List Char) (blank : isBlank c = true) :
    Edit (before ++ c :: s) (before ++ c :: t) := by
  cases edit with
  | recase b a same => simpa using Edit.recase (before ++ c :: b) a same
  | indent s more =>
    simpa using Edit.space before s (isGap_singleton blank) (isGap_pair blank more)
  | dedent s more =>
    simpa using Edit.space before t (isGap_pair blank more) (isGap_singleton blank)
  | pad s more => simpa using Edit.pad (before ++ c :: s) more
  | trim s more => simpa using Edit.trim (before ++ c :: t) more
  | space b a was becomes => simpa using Edit.space (before ++ c :: b) a was becomes

/-- Edits put one space between the words of a text. The induction is on the text behind a word that has
begun. -/
theorem edits_collapseAfter (word s : List Char) :
    ReflTransGen Edit (word.reverse ++ s) ([' '].intercalate (wordsAfter word s)) := by
  induction s generalizing word with
  | nil => cases word <;> simp [wordsAfter, ReflTransGen.refl]
  | cons c rest ih =>
    by_cases blank : isBlank c = true
    · cases word with
      | nil =>
        simp only [wordsAfter, blank, if_true, List.isEmpty_nil]
        exact .head (.dedent rest blank) (ih [])
      | cons d begun =>
        simp only [wordsAfter, blank, if_true, List.isEmpty_cons, Bool.false_eq_true, if_false]
        have later : ReflTransGen Edit ((d :: begun).reverse ++ c :: rest)
            ((d :: begun).reverse ++ c :: [' '].intercalate (wordsAfter [] rest)) :=
          (ih []).lift _ fun _ _ edit => edit.behind _ blank
        refine later.tail ?_
        cases wordsAfter [] rest with
        | nil => simpa using Edit.trim (d :: begun).reverse blank
        | cons w ws =>
          rw [List.intercalate_cons_cons]
          simpa using Edit.space (d :: begun).reverse ([' '].intercalate (w :: ws))
            (isGap_singleton blank) (isGap_singleton (c := ' ') (by decide))
    · simp only [wordsAfter, blank]
      simpa using ih (c :: word)

theorem edits_collapse (s : List Char) : ReflTransGen Edit s (collapse s) :=
  edits_collapseAfter [] s

theorem toUpper_toUpper (c : Char) : c.toUpper.toUpper = c.toUpper := by
  rcases toUpper_cases c with fixed | ⟨_, high, shift⟩
  · rw [fixed, fixed]
  · rcases toUpper_cases c.toUpper with fixed | ⟨low, _⟩
    · exact fixed
    · omega

theorem upper_of_ascii (ascii : ∀ c ∈ s, c.toNat < 128) : upper s = s.map Char.toUpper := by
  induction s with
  | nil => rfl
  | cons c rest ih =>
    rw [List.forall_mem_cons] at ascii
    rw [List.map_cons, ← ih ascii.2]
    simp [upper, upperChar, ascii.1]

theorem edits_map_toUpper (before s : List Char) :
    ReflTransGen Edit (before ++ s) (before ++ s.map Char.toUpper) := by
  induction s generalizing before with
  | nil => exact .refl
  | cons c rest ih =>
    have raised : SameLetter c c.toUpper := (toUpper_toUpper c).symm
    refine .head (.recase before rest raised) ?_
    simpa using ih (before ++ [c.toUpper])

theorem mem_wordsAfter {w : List Char} (member : w ∈ wordsAfter word s) (inside : c ∈ w) :
    c ∈ word ∨ c ∈ s := by
  induction s generalizing word with
  | nil =>
    simp only [wordsAfter] at member
    split at member
    · cases member
    · rw [List.mem_singleton] at member
      exact .inl (by simpa [member] using inside)
  | cons d rest ih =>
    have later {begun : List Char} (found : w ∈ wordsAfter begun rest)
        (known : ∀ e ∈ begun, e ∈ word ∨ e = d) : c ∈ word ∨ c ∈ d :: rest := by
      rcases ih found with old | new
      · rcases known c old with old | rfl
        · exact .inl old
        · exact .inr List.mem_cons_self
      · exact .inr (List.mem_cons_of_mem _ new)
    simp only [wordsAfter] at member
    split at member
    · split at member
      · exact later member nofun
      · rcases List.mem_cons.mp member with rfl | member
        · exact .inl (by simpa using inside)
        · exact later member nofun
    · exact later member (by simp [or_comm])

theorem mem_intercalate {ws : List (List Char)} (inside : c ∈ [' '].intercalate ws) :
    c = ' ' ∨ ∃ w ∈ ws, c ∈ w := by
  induction ws with
  | nil => cases inside
  | cons w rest ih =>
    cases rest with
    | nil => exact .inr ⟨w, List.mem_cons_self, by simpa using inside⟩
    | cons v more =>
      rw [List.intercalate_cons_cons, List.append_assoc, List.mem_append, List.mem_append,
        List.mem_singleton] at inside
      rcases inside with first | rfl | later
      · exact .inr ⟨w, List.mem_cons_self, first⟩
      · exact .inl rfl
      · rcases ih later with blank | ⟨u, member, within⟩
        · exact .inl blank
        · exact .inr ⟨u, List.mem_cons_of_mem _ member, within⟩

theorem ascii_collapse (ascii : ∀ c ∈ s, c.toNat < 128) : ∀ c ∈ collapse s, c.toNat < 128 := by
  intro c inside
  rcases mem_intercalate inside with rfl | ⟨w, member, within⟩
  · decide
  · rcases mem_wordsAfter member within with none | own
    · cases none
    · exact ascii c own

/-- Edits take an ASCII text to the form under which it is looked up. -/
theorem edits_upper_collapse (ascii : ∀ c ∈ s, c.toNat < 128) :
    ReflTransGen Edit s (upper (collapse s)) := by
  rw [upper_of_ascii (ascii_collapse ascii)]
  exact (edits_collapse s).trans (edits_map_toUpper [] (collapse s))

end Text

namespace Operator

open Text (Respelt IsAscii)

variable {s t : String} {op : Operator}

theorem spelling_of_respelt (respelt : Respelt s t) : spelling s = spelling t := by
  rw [spelling, spelling, Text.upper_collapse_of_edits respelt]

/-- Two ASCII texts are edited forms of each other exactly if they are looked up as one. -/
theorem respelt_iff_spelling_eq (first : IsAscii s) (second : IsAscii t) :
    Respelt s t ↔ spelling s = spelling t := by
  constructor
  · exact spelling_of_respelt
  · intro same
    have forms : Text.upper (Text.collapse s.toList) = Text.upper (Text.collapse t.toList) :=
      String.ofList_injective same
    have there := Text.edits_upper_collapse first
    rw [forms] at there
    exact there.trans (Text.edits_symm (Text.edits_upper_collapse second))

theorem ofName?_eq_some_iff {name : String} : ofName? name = some op ↔ op.name = name := by
  constructor
  · intro found
    exact eq_of_beq (List.find?_some (p := fun op : Operator => op.name == name) found)
  · rintro rfl
    cases op <;> rfl

theorem ofText?_eq_some_iff :
    ofText? s = some op ↔ spelling s = op.name ∨ spelling s = "<>" ∧ op = ne := by
  unfold ofText?
  by_cases second : spelling s = "<>"
  · have other : ¬ "<>" = op.name := by cases op <;> decide
    simp [second, other, eq_comm]
  · rw [if_neg second, ofName?_eq_some_iff]
    simp [second, eq_comm]

theorem read_text_eq_ok_iff : read (.text s) = .ok op ↔ ofText? s = some op := by
  have shown : (Value.text s).display = s := rfl
  have writable : (Value.text s).isWritable = true := rfl
  simp only [read, shown, writable, if_true]
  cases ofText? s <;> simp

end Operator

end SearchFilter
