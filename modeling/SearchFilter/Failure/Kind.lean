namespace SearchFilter

inductive ErrorKind
  | entityQuery
  | malformedCondition
  | unsupportedOperator
  | queryBuild
  | cluster
  | configuration
  | clusterConnection
  | clusterQuery
  deriving DecidableEq, Repr

namespace ErrorKind

def all : List ErrorKind :=
  [entityQuery, malformedCondition, unsupportedOperator, queryBuild, cluster, configuration,
    clusterConnection, clusterQuery]

/-- The name under which a kind is reported. -/
def name : ErrorKind → String
  | entityQuery => "EntityQueryError"
  | malformedCondition => "MalformedConditionError"
  | unsupportedOperator => "UnsupportedOperatorError"
  | queryBuild => "QueryBuildError"
  | cluster => "ClusterError"
  | configuration => "ConfigurationError"
  | clusterConnection => "ClusterConnectionError"
  | clusterQuery => "ClusterQueryError"

def ofName? (name : String) : Option ErrorKind :=
  all.find? (·.name == name)

/-- A kind and the kinds above it, up to the most general one. -/
def lineage : ErrorKind → List ErrorKind
  | entityQuery => [entityQuery]
  | malformedCondition => [malformedCondition, entityQuery]
  | unsupportedOperator => [unsupportedOperator, entityQuery]
  | queryBuild => [queryBuild, entityQuery]
  | cluster => [cluster, entityQuery]
  | configuration => [configuration, cluster, entityQuery]
  | clusterConnection => [clusterConnection, cluster, entityQuery]
  | clusterQuery => [clusterQuery, cluster, entityQuery]

end ErrorKind

end SearchFilter
