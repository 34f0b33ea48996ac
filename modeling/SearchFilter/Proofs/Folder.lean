import SearchFilter.Folder

namespace SearchFilter.Folder

variable {folder : Folder} {location : Location} {text : String}

theorem unifyLineEnds_of_clear {chars : List Char} (clear : '\r' ∉ chars) : unifyLineEnds chars = chars := by
  induction chars with
  | nil => rfl
  | cons c rest ih =>
    obtain ⟨other, later⟩ := not_or.mp (mt List.mem_cons.mpr clear)
    have same : unifyLineEnds (c :: rest) = c :: unifyLineEnds rest := by
      rw [unifyLineEnds]
      · exact fun _ is _ => other is.symm
      · exact fun is => other is.symm
    rw [same, ih later]

theorem decode_toUTF8 (text : String) :
    decode text.toUTF8.data.toList = .ok (String.ofList (unifyLineEnds text.toList)) := by
  have bytes : String.fromUTF8? ⟨text.toUTF8.data.toList.toArray⟩ = some text := by
    rw [Array.toArray_toList]
    exact dif_pos text.isValidUTF8
  rw [decode, bytes]

/-- A text without carriage returns is read as it was written. -/
theorem textOf_of_file {subject : String} (found : folder.entryAt location = .file text.toUTF8.data.toList)
    (clear : '\r' ∉ text.toList) : folder.textOf subject location = .ok text := by
  rw [textOf, found]
  show decode _ = _
  rw [decode_toUTF8, unifyLineEnds_of_clear clear, String.ofList_toList]

end SearchFilter.Folder
