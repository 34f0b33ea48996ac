import SearchFilter.Settings
import SearchFilter.Settings.Dotenv

/-!
Settings from several layers: given values come first, then the variables of the environment, then
those of a file, then the defaults. Each field is taken from the first layer that gives it, whatever
gives its neighbours.
-/

namespace SearchFilter.Layers

abbrev Entries := List (Value × Value)

/-- Variables by lower-case name; a variable may be named without a value. -/
abbrev Variables := List (String × Option String)

def variablePrefix : String := "elasticquery_"

def delimiter : String := "__"

mutual

/-- A mapping laid over another: what both give as mappings is laid over one another in turn. -/
def overlay (base : Entries) : Entries → Entries
  | [] => base
  | entry :: rest => overlay (overlayEntry base entry) rest
termination_by structural entries => entries

def overlayEntry (base : Entries) : Value × Value → Entries
  | (key, value) => Value.insertEntry base key (overlayValue ((base.find? fun entry =>
      Value.sameKey entry.1 key).map (·.2)) value)
termination_by structural entry => entry

def overlayValue (below : Option Value) : Value → Value
  | .map entries => match below with
    | some (.map base) => .map (overlay base entries)
    | _ => .map entries
  | value => value
termination_by structural v => v

end

/-- Puts a value at the end of a path of nested mappings; a path through anything else is lost. -/
def put (value : Value) (name : String) : List String → Entries → Entries
  | [], entries => Value.insertEntry entries (.text name) value
  | key :: path, entries =>
    match Value.lookup? key entries with
    | none => entries ++ [(.text key, .map (put value name path []))]
    | some (.map inner) =>
      Value.insertEntry entries (.text key) (.map (put value name path inner))
    | some _ => entries

/-- The value of a variable for a field; a list has to be written as JSON. -/
def fieldValue (s : Section) (path : List String) (field : String) (value : Option String) :
    Option Value :=
  match value with
  | none => some .null
  | some text =>
    if path.isEmpty && s.isListField field && !text.isEmpty then (Json.parse text).toOption
    else some (.text text)

/-- The fields of a section out of the variables that name them one by one. -/
def explode (s : Section) (bindings : Variables) : Option Entries :=
  let start := variablePrefix ++ s.name ++ delimiter
  bindings.foldlM (fun entries (name, value) =>
    if name.startsWith start then
      let keys := ((name.drop start.length).toString).splitOn delimiter
      let last := keys.getLast?.getD ""
      let path := keys.dropLast
      (fieldValue s path last value).map fun value => put value last path entries
    else some entries) []

/-- The entries of a section with the names of its fields in whatever case they were given. -/
def renamed (s : Section) (entries : Entries) : Entries :=
  Value.collectEntries (entries.map fun (key, value) =>
    match key.asText?.bind fun name => s.fieldNames.find? (· == name.toLower) with
    | some name => (.text name, value)
    | none => (key, value))

/-- A section as variables give it: as a whole in JSON, field by field, or not at all. `none` if a
JSON text is broken. -/
def sectionValue? (s : Section) (bindings : Variables) : Option (Option Value) :=
  match bindings.lookup (variablePrefix ++ s.name) with
  | some (some text) => match Json.parse text with
    | .ok (.map entries) => (explode s bindings).map fun fields =>
        some (.map (renamed s (overlay entries fields)))
    | .ok other => some (some other)
    | .error _ => none
  | _ => (explode s bindings).map fun fields =>
      if fields.isEmpty then none else some (.map (renamed s fields))

/-- The sections that variables give. -/
def sections (source : String) (bindings : Variables) : List Section → Except Failure Entries
  | [] => .ok []
  | s :: rest => match sectionValue? s bindings with
    | none => .error (.badSetting s.name source)
    | some value => do
      let others ← sections source bindings rest
      .ok ((value.toList.map fun v => (Value.text s.name, v)) ++ others)

def environmentLayer (bindings : Variables) : Except Failure Entries :=
  sections "EnvSettingsSource" bindings Section.all

/-- The variables of a file that belong to no section; there is no place for them. -/
def strangers (found : Entries) (bindings : Variables) : Entries :=
  bindings.filterMap fun (name, value) =>
    match value with
    | none => none
    | some text =>
      if text.isEmpty || (Value.lookup? name found).isSome ||
          Settings.sectionNames.contains name ||
          Settings.sectionNames.any fun known => name.startsWith (variablePrefix ++ known)
      then none
      else some (.text name, .text text)

def fileLayer (bindings : Variables) : Except Failure Entries := do
  let found ← sections "DotEnvSettingsSource" bindings Section.all
  .ok (found ++ strangers found bindings)

/-- Given entries with the names of the sections in whatever case they were given. -/
def givenLayer (entries : Entries) : Entries :=
  entries.map fun (key, value) =>
    match key with
    | .text name =>
      if (Value.lookup? name.toLower entries).isNone &&
          Settings.sectionNames.contains name.toLower
      then (.text name.toLower, value)
      else (key, value)
    | _ => (key, value)

def lowerNames (bindings : Variables) : Variables :=
  bindings.foldl (fun found (name, value) => Dotenv.assign found name.toLower value) []

end SearchFilter.Layers

namespace SearchFilter

/-- Where settings come from beside what is given: the environment and a file of variables. -/
structure Surroundings where
  environment : List (String × String)
  dotenv : Option String
  deriving Repr

namespace Settings

/-- The merged entries of all layers. -/
def layered (around : Surroundings) (given : List (Value × Value)) :
    Except Failure (List (Value × Value)) := do
  let outside := around.environment.map fun (name, value) => (name, some value)
  let environment ← Layers.environmentLayer (Layers.lowerNames outside)
  let file ← match around.dotenv with
    | some text =>
      Layers.fileLayer (Layers.lowerNames (Dotenv.assignments around.environment text))
    | none => .ok []
  .ok (Layers.overlay file (Layers.overlay environment (Layers.givenLayer given)))

/-- The settings that given entries and the surroundings make. -/
def load (around : Surroundings) (given : List (Value × Value)) : Except Failure Settings := do
  let entries ← layered around given
  (ofEntries entries).toExcept "Settings"

/-- The settings that a given value and the surroundings make: names have to be texts. -/
def loadValue (around : Surroundings) (given : Value) : Except Failure Settings :=
  match given with
  | .map entries =>
    if entries.all (·.1.asText?.isSome) then load around entries else .error .wrongType
  | _ => .error .wrongType

end Settings

end SearchFilter
