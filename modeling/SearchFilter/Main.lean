import SearchFilter.CommandLine

open SearchFilter

/-- The variables that settings come from. -/
def settingNames : List String :=
  Section.all.flatMap fun part =>
    let name := ("elasticquery_" ++ part.name).toUpper
    name :: part.fieldNames.map fun field => name ++ "__" ++ field.toUpper

/-- A file by its name, if it can be read. -/
def readFile? (name : String) : IO (Option File) := do
  try
    let content ← IO.FS.readBinFile name
    pure (some ⟨.ofText name, content.toList⟩)
  catch _ => pure none

/-- The variables that are set. -/
def readVariables : IO (List (String × String)) :=
  settingNames.filterMapM fun name => do
    pure ((← IO.getEnv name).map fun value => (name, value))

def printRecord (record : LogRecord) : IO Unit :=
  IO.eprintln (Json.compact (.ofFields [("event", .text record.message),
    ("logger", .text record.source.name), ("level", .text record.level.name)]))

def main (words : List String) : IO UInt32 := do
  let names := match CommandLine.Arguments.ofWords words with
    | .ok arguments => ".env" :: (arguments.file.toList ++ arguments.config.toList)
    | .error _ => []
  let folder ← names.filterMapM readFile?
  let world : CommandLine.World := ⟨folder, ← readVariables, .vacant, false, fun _ => true⟩
  let run := CommandLine.run world words
  run.shown.forM printRecord
  run.printed.forM IO.println
  run.complaints.forM IO.eprintln
  match run.ending with
  | .exit code => pure code.toUInt32
  | .raised failure => do
    IO.eprintln failure.message
    pure 1
