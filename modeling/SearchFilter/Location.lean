namespace SearchFilter

/-- The steps of a file's name. A name at the root starts with one slash, or with exactly two. -/
structure Location where
  slashes : Nat
  steps : List String
  deriving DecidableEq, Repr

namespace Location

/-- How many slashes a name keeps of those it starts with. -/
def rootSlashes (leading : Nat) : Nat :=
  if leading ≤ 2 then leading else 1

def ofText (text : String) : Location :=
  let leading := (text.toList.takeWhile (· == '/')).length
  let steps := (text.splitOn "/").filter fun step => !(step.isEmpty || step == ".")
  ⟨rootSlashes leading, steps⟩

/-- The name with one slash between its steps; one without any is a point. -/
def text (l : Location) : String :=
  if l.slashes = 0 ∧ l.steps.isEmpty then "."
  else String.ofList (List.replicate l.slashes '/') ++ "/".intercalate l.steps

/-- The last step from its last point on. A point that the step starts or ends with does not
count. -/
def suffix (l : Location) : String :=
  match l.steps.getLast? with
  | none => ""
  | some step =>
    let chars := step.toList
    let tail := (chars.reverse.takeWhile (· != '.')).reverse
    if tail.isEmpty || chars.length ≤ tail.length + 1 then ""
    else String.ofList ('.' :: tail)

end Location

end SearchFilter
