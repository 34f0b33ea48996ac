namespace SearchFilter

inductive LogLevel
  | debug
  | info
  | warning
  | error
  | critical
  deriving DecidableEq, Repr

def LogLevel.name : LogLevel → String
  | .debug => "debug"
  | .info => "info"
  | .warning => "warning"
  | .error => "error"
  | .critical => "critical"

/-- The severity of a level; a record is shown if it reaches that of its reader. -/
def LogLevel.severity : LogLevel → Nat
  | .debug => 10
  | .info => 20
  | .warning => 30
  | .error => 40
  | .critical => 50

/-- The part of the library that a record comes from. -/
inductive LogSource
  | compiler
  | query
  | client
  | commandLine
  deriving DecidableEq, Repr

def LogSource.name : LogSource → String
  | .compiler => "elasticquery.core.compiler"
  | .query => "elasticquery.core.query"
  | .client => "elasticquery.clients.opensearch"
  | .commandLine => "elasticquery.cli"

structure LogRecord where
  level : LogLevel
  source : LogSource
  message : String
  deriving DecidableEq, Repr

end SearchFilter
