import SearchFilter.Value

namespace SearchFilter.Value

variable {name : String} {key value : Value} {items : List Value}
  {entries rest : List (Value × Value)}

@[simp] theorem lookup?_cons_self : lookup? name ((.text name, value) :: rest) = some value := by
  simp [lookup?]

theorem lookup?_cons_ne (other : key ≠ .text name) :
    lookup? name ((key, value) :: rest) = lookup? name rest := by
  cases key with
  | text s =>
    have different : s ≠ name := fun same => other (congrArg _ same)
    simp [lookup?, different]
  | _ => rfl

theorem mem_of_lookup? (found : lookup? name entries = some value) :
    (.text name, value) ∈ entries := by
  induction entries with
  | nil => cases found
  | cons entry rest ih =>
    obtain ⟨key, first⟩ := entry
    by_cases same : key = .text name
    · subst same
      rw [lookup?_cons_self, Option.some.injEq] at found
      exact found ▸ List.mem_cons_self
    · rw [lookup?_cons_ne same] at found
      exact List.mem_cons_of_mem _ (ih found)

theorem sizeOf_lt_of_lookup? (found : lookup? name entries = some value) :
    sizeOf value < sizeOf (Value.map entries) := by
  have inside := List.sizeOf_lt_of_mem (mem_of_lookup? found)
  simp only [Prod.mk.sizeOf_spec] at inside
  rw [Value.map.sizeOf_spec]
  omega

theorem sizeOf_lt_of_mem_list (member : value ∈ items) :
    sizeOf value < sizeOf (Value.list items) := by
  have inside := List.sizeOf_lt_of_mem member
  rw [Value.list.sizeOf_spec]
  omega

end SearchFilter.Value
