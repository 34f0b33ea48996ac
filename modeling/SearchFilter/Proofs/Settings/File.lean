import SearchFilter.Proofs.Result
import SearchFilter.Proofs.Value.Entry
import SearchFilter.Settings.File

namespace SearchFilter

namespace Yaml

variable {α β γ : Type} {fuel : Nat} {node : Node} {entries : List (Value × Value)}

namespace Content

theorem below_eq_ok_iff {content : Content α} {a : α} : below content = .ok a ↔ content = .ok a := by
  cases content <;> simp [below]

theorem both_eq_ok_iff {f : α → β → γ} {first : Content α} {second : Content β} {c : γ} :
    both f first second = .ok c ↔ ∃ a b, first = .ok a ∧ second = .ok b ∧ f a b = c := by
  cases first <;> cases second <;> simp [both]

theorem all_eq_ok_iff {contents : List (Content α)} {found : List α} :
    all contents = .ok found ↔ contents = found.map .ok := by
  induction contents generalizing found with
  | nil => cases found <;> simp [all]
  | cons content rest ih =>
    rw [all, both_eq_ok_iff]
    constructor
    · rintro ⟨a, others, first, later, rfl⟩
      rw [first, ih.mp later, List.map_cons]
    · intro same
      cases found with
      | nil => cases same
      | cons a others =>
        obtain ⟨first, later⟩ := List.cons.inj same
        exact ⟨a, others, first, ih.mpr later, rfl⟩

end Content

namespace Node

open Content

theorem ofResult_map_ne {f : α → Value} (other : ∀ a, f a ≠ .map entries) {result : Except Failure α} :
    ofResult (result.map f) ≠ .ok (.map entries) := by
  cases result with
  | error failure => nofun
  | ok a => exact fun same => other a (Except.ok.inj same)

theorem scalarValue_ne_map {tag : Tag} {text : String} : scalarValue tag text ≠ .ok (.map entries) := by
  cases tag with
  | int | float => exact ofResult_map_ne nofun
  | bool | binary | timestamp =>
    simp only [scalarValue]
    repeat' split
    all_goals nofun
  | _ => nofun

private theorem below_map_ne {content : Content α} {f : α → Value} (other : ∀ a, f a ≠ .map entries) :
    below (content.map f) ≠ .ok (.map entries) := by
  intro read
  obtain ⟨a, _, same⟩ := Result.map_eq_ok_iff.mp (below_eq_ok_iff.mp read)
  exact other a same

theorem collected_of_content (read : contentWithin fuel node = .ok (.map entries)) :
    ∃ pairs, entries = Value.collectEntries pairs ∧
      ∀ pair ∈ pairs, ∃ fuel node, contentWithin fuel node = .ok pair.2 := by
  cases fuel with
  | zero => cases read
  | succ fuel =>
    unfold contentWithin at read
    dsimp only at read
    split at read
    · obtain ⟨found, collected, same⟩ := Result.map_eq_ok_iff.mp (below_eq_ok_iff.mp read)
      cases same
      cases node with
      | mapping tag own =>
        cases merged : mergedEntries fuel own with
        | error problem =>
          simp only [merged] at collected
          cases collected
        | ok nodes =>
          simp only [merged] at collected
          obtain ⟨pairs, each, rfl⟩ := Result.map_eq_ok_iff.mp collected
          refine ⟨pairs, rfl, fun pair member => ?_⟩
          have inside := all_eq_ok_iff.mp each ▸ List.mem_map_of_mem member
          obtain ⟨⟨key, value⟩, _, read⟩ := List.mem_map.mp inside
          obtain ⟨_, _, _, second, rfl⟩ := both_eq_ok_iff.mp read
          exact ⟨fuel, value, second⟩
      | _ => cases collected
    -- nodes of other kinds stand for no mapping
    · exact absurd read (below_map_ne nofun)
    all_goals split at read
    · exact absurd read (below_map_ne nofun)
    · cases read
    · exact absurd read (below_map_ne nofun)
    · cases read
    · exact absurd read (below_map_ne nofun)
    · cases read
    · cases read
    · exact absurd read scalarValue_ne_map
    · cases read

theorem distinct_of_content (read : contentWithin fuel node = .ok (.map entries)) :
    Value.Distinct entries := by
  obtain ⟨pairs, rfl, _⟩ := collected_of_content read
  exact Value.distinct_collectEntries

theorem distinct_of_mem_content (read : contentWithin fuel node = .ok (.map entries))
    {key : Value} {fields : List (Value × Value)} (member : (key, .map fields) ∈ entries) :
    Value.Distinct fields := by
  obtain ⟨pairs, rfl, each⟩ := collected_of_content read
  obtain ⟨pair, inside, same⟩ := Value.exists_of_mem_collectEntries member
  obtain ⟨fuel, node, inner⟩ := each pair inside
  exact distinct_of_content (inner.trans (by rw [← same]))

end Node

theorem content_of_parse {text : String} (read : parse text = .ok (.map entries)) :
    ∃ fuel node, Node.contentWithin fuel node = .ok (.map entries) := by
  unfold parse at read
  cases allowed : text.toList.all isAllowed with
  | false =>
    simp only [allowed] at read
    cases read
  | true =>
    simp only [allowed] at read
    obtain ⟨root?, _, found⟩ := Result.bind_eq_ok_iff.mp read
    cases root? with
    | none => cases found
    | some root =>
      refine ⟨root.height + 1, root, ?_⟩
      have content : root.content = .ok (.map entries) := found
      unfold Node.content at content
      cases held : Node.contentWithin (root.height + 1) root with
      | error defect =>
        rw [held] at content
        cases content
      | ok value =>
        rw [held] at content
        exact congrArg Except.ok (Except.ok.inj content)

/-- A text is read in two passes: its tokens, and a node out of them. -/
theorem parse_of_tokens {text : String} (tokens : List Token) (root : Node)
    (allowed : text.toList.all isAllowed = true) (listed : (Tokens.ofText text.toList).list = tokens)
    (whole : (Tokens.ofText text.toList).stop.isNone = true)
    (grown : Node.ofTokens? ⟨tokens, none⟩ = .ok (some root)) : parse text = root.content := by
  have read : Tokens.ofText text.toList = ⟨tokens, none⟩ := by
    rw [← listed, ← Option.isNone_iff_eq_none.mp whole]
  unfold parse
  simp only [allowed, read, grown]
  rfl

end Yaml

namespace Settings

variable {text : String} {given : List (Value × Value)}

/-- The mapping that a file of settings holds has distinct keys, and so has every mapping in it. -/
theorem distinct_of_fileValue (holds : fileValue text = .ok (.map given)) : Value.Distinct given ∧
    ∀ key fields, (key, .map fields) ∈ given → Value.Distinct fields := by
  unfold fileValue at holds
  cases read : Yaml.parse text with
  | error problem => cases problem <;> simp [read] at holds
  | ok value =>
    simp only [read, Except.ok.injEq] at holds
    split at holds
    · subst holds
      obtain ⟨fuel, node, content⟩ := Yaml.content_of_parse read
      exact ⟨Yaml.Node.distinct_of_content content, fun _ _ => Yaml.Node.distinct_of_mem_content content⟩
    · cases holds
      exact ⟨.nil, nofun⟩

end Settings

end SearchFilter
