import Mathlib.Tactic.SplitIfs
import SearchFilter.Json.Printer
import SearchFilter.Proofs.Text.Ascii

namespace SearchFilter

open Text

namespace Binary64

theorem isAscii_exponentText (exponent : Int) : IsAscii (exponentText exponent) :=
  isAscii_append.mpr ⟨isAscii_ite (by decide) (by decide),
    isAscii_ite (isAscii_append.mpr ⟨by decide, isAscii_nat _⟩) (isAscii_nat _)⟩

theorem isAscii_positional {digits : List Char} (ascii : ∀ c ∈ digits, c.toNat < 128) (pointAt : Int) :
    IsAscii (positional digits pointAt) := by
  have zeros (n : Nat) : ∀ c ∈ List.replicate n '0', c.toNat < 128 := by
    intro c member
    rw [List.eq_of_mem_replicate member]
    decide
  unfold positional
  refine isAscii_ite ?_ ?_
  · simp only [isAscii_append, isAscii_ofList, List.forall_mem_append]
    exact ⟨by decide, zeros _, ascii⟩
  · simp only [isAscii_append, isAscii_ofList, List.forall_mem_append]
    refine ⟨⟨⟨fun c member => ascii c (List.mem_of_mem_take member), zeros _⟩, by decide⟩, ?_⟩
    exact isAscii_ite (by decide) (isAscii_ofList.mpr fun c member => ascii c (List.mem_of_mem_drop member))

theorem isAscii_exponential {digits : List Char} (ascii : ∀ c ∈ digits, c.toNat < 128) (exponent : Int) :
    IsAscii (exponential digits exponent) := by
  have one {c : Char} (small : c.toNat < 128) : IsAscii c.toString :=
    isAscii_ofList.mpr (List.forall_mem_singleton.mpr small)
  unfold exponential
  split
  · decide
  · simp only [isAscii_append]
    exact ⟨⟨one (ascii _ List.mem_cons_self), by decide⟩, isAscii_exponentText exponent⟩
  · obtain ⟨first, rest⟩ := List.forall_mem_cons.mp ascii
    simp only [isAscii_append, isAscii_ofList]
    exact ⟨⟨⟨⟨one first, by decide⟩, rest⟩, by decide⟩, isAscii_exponentText exponent⟩

theorem isAscii_text (x : Binary64) : IsAscii x.text := by
  cases x with
  | nan object => exact (by decide : IsAscii "nan")
  | infinity negative => cases negative <;> decide
  | finite negative significand exponent =>
    have sign : IsAscii (if negative then "-" else "") := isAscii_ite (by decide) (by decide)
    have digits (n : Nat) : ∀ c ∈ (toString n).toList, c.toNat < 128 := isAscii_nat n
    unfold text
    refine isAscii_ite (isAscii_append.mpr ⟨sign, by decide⟩) (isAscii_ite ?_ ?_)
    · exact isAscii_append.mpr ⟨sign, isAscii_positional (digits _) _⟩
    · exact isAscii_append.mpr ⟨sign, isAscii_exponential (digits _) _⟩

end Binary64

namespace Json

theorem ascii_hexText (width n : Nat) : ∀ c ∈ Text.hexText width n, c.toNat < 128 := by
  have digit : ∀ n < 16, (Text.hexDigit n).toNat < 128 := by decide
  induction width generalizing n with
  | zero => exact List.forall_mem_nil _
  | succ width ih =>
    rw [Text.hexText, List.forall_mem_append, List.forall_mem_singleton]
    exact ⟨ih _, digit _ (Nat.mod_lt _ (by decide))⟩

theorem ascii_codeUnit (code : Nat) : ∀ c ∈ codeUnit code, c.toNat < 128 := by
  rw [codeUnit, List.forall_mem_cons, List.forall_mem_cons]
  exact ⟨by decide, by decide, ascii_hexText 4 code⟩

private theorem ascii_escaped {d : Char} (small : d.toNat < 128) : ∀ c ∈ ['\\', d], c.toNat < 128 :=
  List.forall_mem_cons.mpr ⟨by decide, List.forall_mem_singleton.mpr small⟩

theorem ascii_escapeChar (d : Char) : ∀ c ∈ escapeChar d, c.toNat < 128 := by
  unfold escapeChar
  split_ifs with _ _ _ _ _ _ _ plain
  all_goals try exact ascii_escaped (by decide)
  · rw [List.forall_mem_singleton]
    omega
  · exact ascii_codeUnit _
  · rw [List.forall_mem_append]
    exact ⟨ascii_codeUnit _, ascii_codeUnit _⟩

theorem isAscii_quoted (text : String) : IsAscii (quoted text) := by
  simp only [quoted, isAscii_ofList, List.forall_mem_cons, List.forall_mem_append, List.mem_flatMap]
  refine ⟨⟨by decide, ?_⟩, by decide, List.forall_mem_nil _⟩
  rintro c ⟨d, _, member⟩
  exact ascii_escapeChar d c member

theorem isAscii_floatText (x : Binary64) : IsAscii (floatText x) := by
  cases x with
  | nan object => exact (by decide : IsAscii "NaN")
  | infinity negative => cases negative <;> decide
  | finite => exact Binary64.isAscii_text _

theorem isAscii_atomText (value : Value) : IsAscii (atomText value) := by
  unfold atomText
  split
  · decide
  · exact isAscii_ite (by decide) (by decide)
  · exact isAscii_int _
  · exact isAscii_floatText _
  · exact isAscii_quoted _

/-- A layout of ASCII texts. -/
structure Layout.Ascii (layout : Layout) : Prop where
  opening : ∀ depth, IsAscii (layout.opening depth)
  closing : ∀ depth, IsAscii (layout.closing depth)
  between : ∀ depth, IsAscii (layout.between depth)
  colon : IsAscii layout.colon

theorem Layout.ascii_indented : Layout.indented.Ascii := by
  have line (depth : Nat) : IsAscii (lineAt depth) := by
    simp only [lineAt, isAscii_append, isAscii_ofList]
    refine ⟨by decide, fun c member => ?_⟩
    rw [List.eq_of_mem_replicate member]
    decide
  exact ⟨fun depth => line _, line, fun depth => isAscii_append.mpr ⟨by decide, line _⟩, by decide⟩

private theorem isAscii_bracketed {layout : Layout} (ascii : layout.Ascii) {first last : String}
    (opens : IsAscii first) (closes : IsAscii last) {depth : Nat} {parts : List String}
    (each : ∀ part ∈ parts, IsAscii part) :
    IsAscii (first ++ layout.opening depth ++ (layout.between depth).intercalate parts ++
      layout.closing depth ++ last) := by
  simp only [isAscii_append]
  exact ⟨⟨⟨⟨opens, ascii.opening depth⟩, isAscii_intercalate (ascii.between depth) each⟩,
    ascii.closing depth⟩, closes⟩

mutual

theorem isAscii_render {layout : Layout} (ascii : layout.Ascii) (depth : Nat) :
    ∀ value : Value, IsAscii (render layout depth value)
  | .list [] | .tuple [] => (by decide : IsAscii "[]")
  | .map [] => (by decide : IsAscii "\x7b\x7d")
  | .list (item :: rest) | .tuple (item :: rest) => by
    unfold render
    exact isAscii_bracketed ascii (by decide) (by decide) (isAscii_renderItems ascii _ (item :: rest))
  | .map (entry :: rest) => by
    unfold render
    exact isAscii_bracketed ascii (by decide) (by decide) (isAscii_renderEntries ascii _ (entry :: rest))
  | .null | .bool _ | .number _ | .date _ | .moment _ | .bytes _ | .text _ | .set _ | .operator _
  | .conjunction _ => by
    unfold render
    exact isAscii_atomText _
termination_by structural value => value

theorem isAscii_renderItems {layout : Layout} (ascii : layout.Ascii) (depth : Nat) :
    ∀ items : List Value, ∀ part ∈ renderItems layout depth items, IsAscii part
  | [] => List.forall_mem_nil _
  | item :: rest => List.forall_mem_cons.mpr
    ⟨isAscii_render ascii depth item, isAscii_renderItems ascii depth rest⟩
termination_by structural items => items

theorem isAscii_renderEntries {layout : Layout} (ascii : layout.Ascii) (depth : Nat) :
    ∀ entries : List (Value × Value), ∀ part ∈ renderEntries layout depth entries, IsAscii part
  | [] => List.forall_mem_nil _
  | entry :: rest => List.forall_mem_cons.mpr
    ⟨isAscii_renderEntry ascii depth entry, isAscii_renderEntries ascii depth rest⟩
termination_by structural entries => entries

theorem isAscii_renderEntry {layout : Layout} (ascii : layout.Ascii) (depth : Nat) :
    ∀ entry : Value × Value, IsAscii (renderEntry layout depth entry)
  | (key, value) => by
    rw [renderEntry, isAscii_append, isAscii_append]
    exact ⟨⟨isAscii_quoted _, ascii.colon⟩, isAscii_render ascii depth value⟩
termination_by structural entry => entry

end

theorem isAscii_indented (value : Value) : IsAscii (indented value) :=
  isAscii_render Layout.ascii_indented 0 value

end Json

end SearchFilter
