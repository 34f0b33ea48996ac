import SearchFilter.Failure
import SearchFilter.LogRecord
import SearchFilter.Text.LetterCase

namespace SearchFilter

/-- Records below the level are not shown; without a level every record is. -/
structure LogThreshold where
  level : Option LogLevel
  deriving DecidableEq, Repr

namespace LogThreshold

/-- The names of thresholds; some levels have two. -/
def names : List (String × LogThreshold) :=
  [("NOTSET", ⟨none⟩), ("DEBUG", ⟨some .debug⟩), ("INFO", ⟨some .info⟩),
    ("WARNING", ⟨some .warning⟩), ("WARN", ⟨some .warning⟩), ("ERROR", ⟨some .error⟩),
    ("CRITICAL", ⟨some .critical⟩), ("FATAL", ⟨some .critical⟩)]

/-- The first name of a threshold. -/
def name (t : LogThreshold) : String :=
  ((names.find? (·.2 = t)).map (·.1)).getD "NOTSET"

/-- The threshold of a name in any case. A name that means nothing means the usual threshold, but
for two that belong to other things. -/
def ofName (name : String) : Except Failure LogThreshold :=
  let upper := String.ofList (Text.upper name.toList)
  if upper == "BASIC_FORMAT" then
    .error (.badValue (.unknownLevel "%(levelname)s:%(name)s:%(message)s"))
  else if upper == "_STYLES" then .error .wrongType
  else .ok ((names.lookup upper).getD ⟨some .info⟩)

def shows (t : LogThreshold) (r : LogRecord) : Bool :=
  t.level.all fun level => level.severity ≤ r.level.severity

end LogThreshold

end SearchFilter
