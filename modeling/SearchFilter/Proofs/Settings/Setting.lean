import Mathlib.Logic.Basic
import SearchFilter.Proofs.Value.Entry
import SearchFilter.Settings.Layers

namespace SearchFilter

theorem Text.toLower_eq {s t : String} (letters : s.toList.map Char.toLower = t.toList) : s.toLower = t :=
  String.toList_inj.mp (String.toList_map.trans letters)

/-- A single setting. -/
inductive Setting
  | hosts
  | username
  | password
  | verifyCerts
  | timeout
  | maxResultWindow
  | warnOnLeadingWildcard
  | logLevel
  | logFormat
  deriving DecidableEq, Repr

namespace Setting

/-- The section that a setting belongs to. -/
def home : Setting → Section
  | hosts | username | password | verifyCerts | timeout => .cluster
  | maxResultWindow | warnOnLeadingWildcard => .query
  | logLevel | logFormat => .observability

/-- The name of a setting in its section. -/
def name : Setting → String
  | hosts => "hosts"
  | username => "username"
  | password => "password"
  | verifyCerts => "verify_certs"
  | timeout => "timeout"
  | maxResultWindow => "max_result_window"
  | warnOnLeadingWildcard => "warn_on_leading_wildcard"
  | logLevel => "log_level"
  | logFormat => "log_format"

/-- What the names of the variables of a section start with, in lower case. -/
def variableStart (s : Section) : String :=
  Layers.variablePrefix ++ s.name ++ Layers.delimiter

/-- The name of the variable of a setting, in lower case. -/
def variableName (x : Setting) : String :=
  variableStart x.home ++ x.name

/-- What a setting is: texts, a text or nothing, a truth value, a number or a text. -/
def Kind : Setting → Type
  | hosts => List String
  | username | password => Option String
  | verifyCerts | warnOnLeadingWildcard => Bool
  | timeout => Binary64
  | maxResultWindow => Int
  | logLevel | logFormat => String

/-- How a setting is read out of a value. -/
def read : (x : Setting) → Value → Field.Checked x.Kind
  | hosts => ClusterSettings.readHosts
  | username | password => Field.readOptional Field.readText
  | verifyCerts | warnOnLeadingWildcard => Field.readBool
  | timeout => ClusterSettings.readTimeout
  | maxResultWindow => QuerySettings.readWindow
  | logLevel | logFormat => Field.readText

/-- What a setting is when nothing is given. -/
def default : (x : Setting) → x.Kind
  | hosts => ClusterSettings.defaultHosts
  | username | password => none
  | verifyCerts | warnOnLeadingWildcard => true
  | timeout => ClusterSettings.defaultTimeout
  | maxResultWindow => Compiler.defaultWindow
  | logLevel => "info"
  | logFormat => "json"

/-- What a setting is in some settings. -/
def of : (x : Setting) → Settings → x.Kind
  | hosts => (·.cluster.hosts)
  | username => (·.cluster.username)
  | password => (·.cluster.password)
  | verifyCerts => (·.cluster.verifyCerts)
  | timeout => (·.cluster.timeout)
  | maxResultWindow => (·.query.maxResultWindow)
  | warnOnLeadingWildcard => (·.query.warnOnLeadingWildcard)
  | logLevel => (·.observability.logLevel)
  | logFormat => (·.observability.logFormat)

variable {x y : Setting}

theorem name_inj : x.name = y.name → x = y := by
  cases x <;> cases y <;> decide

theorem variableName_inj : x.variableName = y.variableName → x = y := by
  cases x <;> cases y <;> decide

theorem isPlainName_name (x : Setting) : Value.IsPlainName x.name := by
  constructor
  · intro op
    cases x <;> cases op <;> decide
  · intro c
    cases x <;> cases c <;> decide

theorem isPlainName_home (s : Section) : Value.IsPlainName s.name := by
  constructor
  · intro op
    cases s <;> cases op <;> decide
  · intro c
    cases s <;> cases c <;> decide

theorem find?_fieldNames (x : Setting) :
    x.home.fieldNames.find? (· == x.name.toLower) = some x.name := by
  have lower : x.name.toLower = x.name := Text.toLower_eq (by cases x <;> decide)
  rw [lower]
  cases x <;> rfl

theorem isListField_name (x : Setting) : x.home.isListField x.name = decide (x = hosts) := by
  cases x <;> rfl

theorem startsWith_variableStart (x : Setting) (s : Section) :
    x.variableName.startsWith (variableStart s) = true ↔ x.home = s := by
  rw [String.startsWith_string_iff]
  cases x <;> cases s <;> decide

theorem drop_variableStart (x : Setting) :
    (x.variableName.drop (variableStart x.home).length).toString = x.name := by
  have rest (a b : String) : ((a ++ b).drop a.length).toString = b := by
    apply String.toList_inj.mp
    rw [String.Slice.toString_eq, String.toList_copy_drop, String.toList_append, ← String.length_toList,
      List.drop_left]
  exact rest _ _

/-- A text of single bytes in which no two underscores meet is not split where two of them stand. -/
private theorem splitOnAux_of_parted {s : String} {n k : Nat} (parted : ∀ k < s.utf8ByteSize,
    String.Pos.Raw.next s ⟨k⟩ = ⟨k + 1⟩ ∧ ((String.Pos.Raw.get s ⟨k⟩ == '_') = true →
      k + 1 < s.utf8ByteSize ∧ (String.Pos.Raw.get s ⟨k + 1⟩ == '_') = false))
    (left : k + n = s.utf8ByteSize) :
    s.splitOnAux "__" 0 ⟨k⟩ 0 [] = [String.Pos.Raw.extract s 0 ⟨s.utf8ByteSize⟩] := by
  induction n generalizing k with
  | zero =>
    have ended : String.Pos.Raw.atEnd s ⟨k⟩ = true := by simp [String.Pos.Raw.atEnd, ← left]
    rw [String.splitOnAux, if_pos ended, ← left]
    rfl
  | succ n ih =>
    have inside : String.Pos.Raw.atEnd s ⟨k⟩ = false := by
      simp only [String.Pos.Raw.atEnd, decide_eq_false_iff_not]
      omega
    obtain ⟨moves, alone⟩ := parted k (by omega)
    have sep : String.Pos.Raw.get "__" 0 = '_' ∧ String.Pos.Raw.get "__" ⟨1⟩ = '_' ∧
        String.Pos.Raw.next "__" 0 = ⟨1⟩ ∧ String.Pos.Raw.atEnd "__" ⟨1⟩ = false := by decide
    have back : String.Pos.Raw.unoffsetBy ⟨k⟩ 0 = ⟨k⟩ ∧ String.Pos.Raw.unoffsetBy ⟨k + 1⟩ ⟨1⟩ = ⟨k⟩ :=
      ⟨rfl, rfl⟩
    obtain ⟨first, second, next, more⟩ := sep
    rw [String.splitOnAux, inside, first]
    cases mark : String.Pos.Raw.get s ⟨k⟩ == '_' with
    | false =>
      simp only [Bool.false_eq_true, if_false, back.1, moves]
      exact ih (by omega)
    | true =>
      obtain ⟨room, other⟩ := alone mark
      have within : String.Pos.Raw.atEnd s ⟨k + 1⟩ = false := by
        simp only [String.Pos.Raw.atEnd, decide_eq_false_iff_not]
        omega
      simp only [Bool.false_eq_true, if_false, if_true, moves, next, more]
      rw [String.splitOnAux, within, second, other]
      simp only [Bool.false_eq_true, if_false, back.2, moves]
      exact ih (by omega)

theorem splitOn_name (x : Setting) : x.name.splitOn Layers.delimiter = [x.name] := by
  have parted : ∀ k < x.name.utf8ByteSize, String.Pos.Raw.next x.name ⟨k⟩ = ⟨k + 1⟩ ∧
      ((String.Pos.Raw.get x.name ⟨k⟩ == '_') = true →
        k + 1 < x.name.utf8ByteSize ∧ (String.Pos.Raw.get x.name ⟨k + 1⟩ == '_') = false) := by
    cases x <;> decide
  have whole : String.Pos.Raw.extract x.name 0 ⟨x.name.utf8ByteSize⟩ = x.name := by
    cases x <;> decide
  exact (splitOnAux_of_parted parted (Nat.zero_add _)).trans (by rw [whole])

end Setting

end SearchFilter
