import SearchFilter.Event
import SearchFilter.Settings

/-!
The connection to a cluster. It is opened by the first request and stays open until it is closed;
the next request then opens another one. Opening needs a driver that may not be installed.
-/

namespace SearchFilter

/-- How a connection is opened. The values are handed to the driver as they are. -/
structure ConnectionOptions where
  hosts : Value
  username : Value
  password : Value
  verifyCerts : Value
  timeout : Value
  extra : List (String × Value)
  deriving Repr

namespace ConnectionOptions

def defaultHosts : Value :=
  .list (ClusterSettings.defaultHosts.map .text)

/-- Options out of named arguments; those that have no place of their own are extra. -/
def ofArguments (arguments : List (String × Value)) : ConnectionOptions :=
  let get := fun (name : String) (default : Value) => (arguments.lookup name).getD default
  let hosts := get "hosts" .null
  { hosts := if hosts.isTruthy then hosts else defaultHosts
    username := get "username" .null
    password := get "password" .null
    verifyCerts := get "verify_certs" (.bool true)
    timeout := get "timeout" (.float ClusterSettings.defaultTimeout)
    extra := arguments.filter fun argument =>
      !ClusterSettings.fieldNames.contains argument.1 }

def ofSettings (s : ClusterSettings) : ConnectionOptions :=
  ofArguments [("hosts", .list (s.hosts.map .text)), ("username", s.username.elim .null .text),
    ("password", s.password.elim .null .text), ("verify_certs", .bool s.verifyCerts),
    ("timeout", .float s.timeout)]

/-- A user and a password, if both are given. -/
def credentials (o : ConnectionOptions) : List (String × Value) :=
  if o.username.isTruthy && o.password.isTruthy then
    [("http_auth", .tuple [o.username, o.password])]
  else []

/-- What the driver is given; an extra option overrides one of the others. -/
def toDocument (o : ConnectionOptions) : Value :=
  let fields := [("hosts", o.hosts), ("verify_certs", o.verifyCerts),
    ("ssl_show_warn", .bool false), ("timeout", o.timeout)] ++ o.credentials ++ o.extra
  .map (Value.collectEntries (fields.map fun (name, value) => (.text name, value)))

/-- The hosts in one line; they have to be texts. -/
def hostLine? (o : ConnectionOptions) : Option String := do
  let items ← o.hosts.items?
  let texts ← items.mapM Value.asText?
  pure (", ".intercalate texts)

end ConnectionOptions

/-- A wrapper around at most one open connection. -/
structure Connection where
  options : ConnectionOptions
  isOpen : Bool
  deriving Repr

namespace Connection

def make (options : ConnectionOptions) : Connection :=
  ⟨options, false⟩

/-- Opens the connection unless it is open. It stays open even if its hosts cannot be logged. -/
def acquire (c : Connection) (installed : Bool) : Connection × Trace Event Unit :=
  if c.isOpen then (c, pure ())
  else if !installed then (c, .fail (.cluster .noDriver))
  else
    ({ c with isOpen := true }, do
      Trace.emit (.opened c.options.toDocument)
      match c.options.hostLine? with
      | some line =>
        Trace.emit (.logged ⟨.info, .client, "Created OpenSearch client for " ++ line⟩)
      | none => .fail .wrongType)

/-- Closes the connection if it is open. -/
def close (c : Connection) : Connection × Trace Event Unit :=
  if c.isOpen then ({ c with isOpen := false }, Trace.emit .closed) else (c, pure ())

/-- The failure of a request whose transport failed with a named error. -/
def transportFailure (method : Method) (request : Request) (name message : String) : Failure :=
  let reason := (failureNamed name message).message
  if name.contains "ConnectionError" then .cluster (.unreachable name reason)
  else .cluster (.refused method request.index name reason)

/-- A pair out of an item of a list. -/
def pairOf (index : Nat) (item : Value) : Except Failure (Value × Value) :=
  match item.items? with
  | none => .error .wrongType
  | some [key, value] => if key.isKey then .ok (key, value) else .error .wrongType
  | some parts => .error (.badValue (.noPair index parts.length))

def pairsFrom (index : Nat) : List Value → Except Failure (List (Value × Value))
  | [] => .ok []
  | item :: rest => do
    let pair ← pairOf index item
    let pairs ← pairsFrom (index + 1) rest
    .ok (pair :: pairs)

/-- An answer as a mapping: it is one, or a list of pairs. -/
def mappingOf (answer : Value) : Except Failure Value :=
  match answer with
  | .map entries => .ok (.map entries)
  | other => match other.items? with
    | none => .error .wrongType
    | some items => (pairsFrom 0 items).map fun pairs => .map (Value.collectEntries pairs)

/-- Sends a request over an open connection. -/
def transmit (cluster : Cluster) (method : Method) (request : Request) : Trace Event Value := do
  Trace.emit (.sent method request.index request.body)
  match cluster.reply method with
  | .failure name message => .fail (transportFailure method request name message)
  | .value answer => Trace.lift (mappingOf answer)

/-- Runs a request, opening the connection if need be. -/
def call (c : Connection) (installed : Bool) (cluster : Cluster) (method : Method)
    (request : Request) : Connection × Trace Event Value :=
  let (c, opening) := c.acquire installed
  (c, do
    opening
    transmit cluster method request)

end Connection

end SearchFilter
