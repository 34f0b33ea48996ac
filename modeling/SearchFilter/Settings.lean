import SearchFilter.Request
import SearchFilter.Json.Reader

namespace SearchFilter

structure ClusterSettings where
  hosts : List String
  username : Option String
  password : Option String
  verifyCerts : Bool
  timeout : Binary64
  deriving DecidableEq, Repr

structure QuerySettings where
  maxResultWindow : Int
  warnOnLeadingWildcard : Bool
  deriving DecidableEq, Repr

structure ObservabilitySettings where
  logLevel : String
  logFormat : String
  deriving DecidableEq, Repr

structure Settings where
  cluster : ClusterSettings
  query : QuerySettings
  observability : ObservabilitySettings
  deriving DecidableEq, Repr

namespace ClusterSettings

def defaultHosts : List String :=
  ["https://localhost:9200"]

def defaultTimeout : Binary64 :=
  .ofInt 30

/-- The hosts that a text lists, or the single host that it is. -/
def hostsOfText (text : String) : Field.Checked (List Value) :=
  match Json.parse text with
  | .ok (.list items) => .ok (items.map fun item => .text item.display)
  | .error (.tooManyDigits count) => .fault (.rejected (Numeral.tooManyDigitsMessage count))
  | _ => .ok (if text.isEmpty then [] else [.text text])

/-- Hosts as a list, or as a text. -/
def readHosts (value : Value) : Field.Checked (List String) :=
  let items := match value.asText? with
    | some text => hostsOfText text
    | none => match value.items? with
      | some items => .ok items
      | none => .stopped .wrongType
  items.andThen (Field.readItems Field.readText 0)

/-- A time to wait, which has to be some. -/
def readTimeout (value : Value) : Field.Checked Binary64 :=
  (Field.readFloat value).andThen fun x =>
    if Position.before (.at 0) (Number.float x).position then .ok x else .fault (.above 0)

def ofEntries (entries : List (Value × Value)) : Field.Checked ClusterSettings :=
  ClusterSettings.mk <$> Field.withDefault entries "hosts" defaultHosts readHosts
    <*> Field.withDefault entries "username" none (Field.readOptional Field.readText)
    <*> Field.withDefault entries "password" none (Field.readOptional Field.readText)
    <*> Field.withDefault entries "verify_certs" true Field.readBool
    <*> Field.withDefault entries "timeout" defaultTimeout readTimeout

def read (value : Value) : Field.Checked ClusterSettings :=
  (Field.recordEntries "ClusterSettings" value).andThen ofEntries

def fieldNames : List String :=
  ["hosts", "username", "password", "verify_certs", "timeout"]

def toDocument (s : ClusterSettings) : Value :=
  .ofFields [("hosts", .list (s.hosts.map .text)), ("username", s.username.elim .null .text),
    ("password", s.password.elim .null .text), ("verify_certs", .bool s.verifyCerts),
    ("timeout", .float s.timeout)]

end ClusterSettings

namespace QuerySettings

def readWindow (value : Value) : Field.Checked Int :=
  (Field.readInt value).andThen (Field.atLeast 1)

def ofEntries (entries : List (Value × Value)) : Field.Checked QuerySettings :=
  QuerySettings.mk
    <$> Field.withDefault entries "max_result_window" Compiler.defaultWindow readWindow
    <*> Field.withDefault entries "warn_on_leading_wildcard" true Field.readBool

def read (value : Value) : Field.Checked QuerySettings :=
  (Field.recordEntries "QuerySettings" value).andThen ofEntries

def fieldNames : List String :=
  ["max_result_window", "warn_on_leading_wildcard"]

def toDocument (s : QuerySettings) : Value :=
  .ofFields [("max_result_window", .int s.maxResultWindow),
    ("warn_on_leading_wildcard", .bool s.warnOnLeadingWildcard)]

/-- The compiler that the settings ask for. -/
def compiler (s : QuerySettings) : Except Failure Compiler :=
  Compiler.make (.int s.maxResultWindow) s.warnOnLeadingWildcard

end QuerySettings

namespace ObservabilitySettings

def ofEntries (entries : List (Value × Value)) : Field.Checked ObservabilitySettings :=
  ObservabilitySettings.mk <$> Field.withDefault entries "log_level" "info" Field.readText
    <*> Field.withDefault entries "log_format" "json" Field.readText

def read (value : Value) : Field.Checked ObservabilitySettings :=
  (Field.recordEntries "ObservabilitySettings" value).andThen ofEntries

def fieldNames : List String :=
  ["log_level", "log_format"]

def toDocument (s : ObservabilitySettings) : Value :=
  .ofFields [("log_level", .text s.logLevel), ("log_format", .text s.logFormat)]

end ObservabilitySettings

/-- A section of the settings. -/
inductive Section
  | cluster
  | query
  | observability
  deriving DecidableEq, Repr

namespace Section

def all : List Section :=
  [cluster, query, observability]

def name : Section → String
  | cluster => "cluster"
  | query => "query"
  | observability => "observability"

def fieldNames : Section → List String
  | cluster => ClusterSettings.fieldNames
  | query => QuerySettings.fieldNames
  | observability => ObservabilitySettings.fieldNames

/-- The one field that is a list, and is written as JSON in a variable. -/
def isListField (s : Section) (field : String) : Bool :=
  s = cluster && field == "hosts"

end Section

namespace Settings

/-- The default of a section: what it is when nothing is given. -/
def defaultCluster : ClusterSettings :=
  ⟨ClusterSettings.defaultHosts, none, none, true, ClusterSettings.defaultTimeout⟩

def defaultQuery : QuerySettings :=
  ⟨Compiler.defaultWindow, true⟩

def defaultObservability : ObservabilitySettings :=
  ⟨"info", "json"⟩

def sectionNames : List String :=
  Section.all.map Section.name

/-- A section that nobody knows is a fault, in the order in which they are given. -/
def extras (entries : List (Value × Value)) : Field.Checked Unit :=
  let names := entries.filterMap fun entry => entry.1.asText?
  let unknown := names.filter fun name => !sectionNames.contains name
  if unknown.isEmpty then .ok ()
  else .faults (unknown.map fun name => ⟨[.name name], .extra⟩)

/-- Settings out of the entries of a mapping. -/
def ofEntries (entries : List (Value × Value)) : Field.Checked Settings :=
  (fun cluster query observability _ => ⟨cluster, query, observability⟩)
    <$> Field.withDefault entries "cluster" defaultCluster ClusterSettings.read
    <*> Field.withDefault entries "query" defaultQuery QuerySettings.read
    <*> Field.withDefault entries "observability" defaultObservability ObservabilitySettings.read
    <*> extras entries

def toDocument (s : Settings) : Value :=
  .ofFields [("cluster", s.cluster.toDocument), ("query", s.query.toDocument),
    ("observability", s.observability.toDocument)]

end Settings

end SearchFilter
