import SearchFilter.Folder
import SearchFilter.Settings.Layers
import SearchFilter.Yaml

namespace SearchFilter.Settings

/-- The value that a file of settings holds. -/
def fileValue (text : String) : Except Failure Value :=
  match Yaml.parse text with
  | .ok value => .ok (if value.isTruthy then value else .map [])
  | .error (.broken fault) => .error (.brokenYaml fault)
  | .error (.failed failure) => .error failure

/-- The settings that a file and the surroundings make. -/
def ofFile (around : Surroundings) (folder : Folder) (name : String) : Except Failure Settings := do
  let text ← folder.textOf "Config file" (Location.ofText name)
  loadValue around (← fileValue text)

end SearchFilter.Settings
