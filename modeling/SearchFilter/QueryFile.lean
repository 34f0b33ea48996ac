import SearchFilter.Folder
import SearchFilter.Json.Reader
import SearchFilter.Yaml

namespace SearchFilter.QueryFile

/-- The value of a JSON text in a named file. -/
def readJson (file text : String) : Except Failure Value :=
  match Json.parse text with
  | .ok value => .ok value
  | .error (.broken problem) => .error (.malformed (.invalidJson file problem))
  | .error (.tooManyDigits count) => .error (.badValue (.tooManyDigits count))

/-- The value of a YAML text in a named file; one that says nothing is an empty mapping. -/
def readYaml (file text : String) : Except Failure Value :=
  match Yaml.parse text with
  | .ok value => .ok (if value.isTruthy then value else .map [])
  | .error (.broken fault) => .error (.malformed (.invalidYaml file fault))
  | .error (.failed failure) => .error failure

/-- The document in a file. -/
def read (folder : Folder) (name : String) : Except Failure (List (Value × Value)) := do
  let location := Location.ofText name
  let text ← folder.textOf "Query file" location
  let value ← if location.suffix.toLower == ".json" then readJson location.text text
    else readYaml location.text text
  match value with
  | .map entries => pure entries
  | _ => throw (.malformed (.fileNoMapping location.text))

end SearchFilter.QueryFile
