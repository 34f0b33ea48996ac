import Mathlib.Algebra.Group.Nat.Defs
import SearchFilter.Value.Printer

namespace SearchFilter

namespace Numeral

/-- An integer is written out exactly if it has no more digits than a numeral. -/
theorem isWritable_iff {n : Int} : isWritable n = true ↔ n.natAbs < 10 ^ maxDigits := by
  rw [isWritable, decide_eq_true_iff, Nat.length_toDigits_le_iff (by decide) (by decide)]

theorem isWritable_of_lt {n : Int} {k : Nat} (few : k ≤ maxDigits) (small : n.natAbs < 10 ^ k) :
    isWritable n = true :=
  isWritable_iff.mpr (Nat.lt_of_lt_of_le small (Nat.pow_le_pow_right (by decide) few))

theorem isWritable_ofNat_eq_false {n : Nat} (large : 10 ^ maxDigits ≤ n) : isWritable (.ofNat n) = false :=
  Bool.eq_false_iff.mpr fun written => Nat.not_lt.mpr large (isWritable_iff.mp written)

end Numeral

namespace Value

variable {value : Value} {items : List Value} {entries : List (Value × Value)}

theorem allWritable_eq_all : allWritable items = items.all isWritable := by
  induction items with
  | nil => rfl
  | cons item rest ih => rw [allWritable, List.all_cons, ih]

theorem allWritable_iff : allWritable items = true ↔ ∀ item ∈ items, item.isWritable = true := by
  rw [allWritable_eq_all, List.all_eq_true]

theorem entriesWritable_iff : entriesWritable entries = true ↔
    ∀ entry ∈ entries, entry.1.isWritable = true ∧ entry.2.isWritable = true := by
  induction entries with
  | nil => simp [entriesWritable]
  | cons entry rest ih =>
    obtain ⟨key, value⟩ := entry
    rw [entriesWritable, entryWritable, Bool.and_eq_true, Bool.and_eq_true, ih, List.forall_mem_cons]

theorem isWritable_ofFields {fields : List (String × Value)} :
    (ofFields fields).isWritable = true ↔ ∀ field ∈ fields, field.2.isWritable = true := by
  rw [ofFields, isWritable, entriesWritable_iff, List.forall_mem_map]
  exact forall₂_congr fun _ _ => and_iff_right rfl

theorem isWritable_of_asText? {name : String} (text : value.asText? = some name) :
    value.isWritable = true := by
  cases value with
  | text | operator | conjunction => rfl
  | _ => cases text

theorem isWritable_lookup? {name : String} (writable : entriesWritable entries = true) :
    ((lookup? name entries).getD .null).isWritable = true := by
  cases found : lookup? name entries with
  | none => rfl
  | some value =>
    obtain ⟨entry, named, rfl⟩ := Option.map_eq_some_iff.mp found
    exact (entriesWritable_iff.mp writable entry (List.mem_of_find?_eq_some named)).2

end Value

end SearchFilter
