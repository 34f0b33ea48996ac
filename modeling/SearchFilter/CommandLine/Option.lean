import SearchFilter.LogRecord
import SearchFilter.Text.Quoted

namespace SearchFilter.CommandLine

inductive Command
  | compile
  | count
  | search
  deriving DecidableEq, Repr

namespace Command

def all : List Command :=
  [compile, count, search]

def name : Command → String
  | compile => "compile"
  | count => "count"
  | search => "search"

def ofName? (name : String) : Option Command :=
  all.find? (·.name == name)

end Command

/-- The levels that may be asked for. -/
def levels : List LogLevel :=
  [.debug, .info, .warning, .error]

inductive Flag
  | help
  | config
  | index
  | logLevel
  | version
  deriving DecidableEq, Repr

namespace Flag

/-- The spellings of all options, in the order in which they are tried. -/
def spellings : List (String × Flag) :=
  [("-h", help), ("--help", help), ("--config", config), ("-c", config), ("--index", index),
    ("-i", index), ("--log-level", logLevel), ("--version", version)]

def ofSpelling? (text : String) : Option Flag :=
  spellings.lookup text

/-- All spellings of an option, as a message names it. -/
def title (f : Flag) : String :=
  "/".intercalate ((spellings.filter (·.2 = f)).map (·.1))

/-- The option is followed by an argument. -/
def takesArgument : Flag → Bool
  | config | index | logLevel => true
  | help | version => false

end Flag

/-- Why arguments are refused. -/
inductive Misuse
  | ambiguous (argument : String) (matching : List String)
  | noArgument (flag : Flag)
  | needlessArgument (flag : Flag) (argument : String)
  | unknownCommand (got : String)
  | unknownLevel (got : String)
  | missing (names : List String)
  | unrecognized (arguments : List String)
  deriving DecidableEq, Repr

namespace Misuse

/-- A choice that is none of those there are. -/
def choiceText (title got : String) (choices : List String) : String :=
  "argument " ++ title ++ ": invalid choice: " ++ Text.quoted got ++ " (choose from " ++
    ", ".intercalate (choices.map Text.quoted) ++ ")"

def message : Misuse → String
  | ambiguous argument matching =>
    "ambiguous option: " ++ argument ++ " could match " ++ ", ".intercalate matching
  | noArgument flag => "argument " ++ flag.title ++ ": expected one argument"
  | needlessArgument flag argument =>
    "argument " ++ flag.title ++ ": ignored explicit argument " ++ Text.quoted argument
  | unknownCommand got => choiceText "command" got (Command.all.map Command.name)
  | unknownLevel got => choiceText Flag.logLevel.title got (levels.map LogLevel.name)
  | missing names => "the following arguments are required: " ++ ", ".intercalate names
  | unrecognized arguments => "unrecognized arguments: " ++ " ".intercalate arguments

end Misuse

end SearchFilter.CommandLine
