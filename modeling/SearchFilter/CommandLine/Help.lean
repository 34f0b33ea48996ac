namespace SearchFilter.CommandLine

def programName : String := "elasticquery"

def version : String := "0.1.0"

def versionLine : String :=
  programName ++ " " ++ version

def usageLines : List String :=
  ["usage: elasticquery [-h] [--config CONFIG] [--index INDEX]",
    "                    [--log-level \x7bdebug,info,warning,error\x7d] [--version]",
    "                    \x7bcompile,count,search\x7d file"]

def helpLines : List String :=
  usageLines ++
  ["",
    "elasticquery — compile entity queries to search-cluster bool queries",
    "",
    "positional arguments:",
    "  \x7bcompile,count,search\x7d",
    "                        compile: print the request; count / search: run it",
    "                        against the cluster",
    "  file                  Path to a JSON or YAML query file",
    "",
    "options:",
    "  -h, --help            show this help message and exit",
    "  --config CONFIG, -c CONFIG",
    "                        Path to YAML configuration file",
    "  --index INDEX, -i INDEX",
    "                        Index / entity type (overrides the query file)",
    "  --log-level \x7bdebug,info,warning,error\x7d",
    "                        Log level (overrides config)",
    "  --version             show program's version number and exit"]

end SearchFilter.CommandLine
