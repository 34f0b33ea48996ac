import SearchFilter.Failure.Kind
import SearchFilter.Failure.Malformed
import SearchFilter.Failure.Unsupported
import SearchFilter.Field.Fault

/-!
Everything that can end an operation early. The first four causes are the library's own and have a
kind; the others arise below it, from a value of the wrong type, a missing file or the like.
-/

namespace SearchFilter

/-- Why a query and its directives form no request. -/
inductive BuildFault
  | noEntityType
  | invalidSort (field : Value) (invalid : Field.Invalid)
  | invalidRange (start length : Value) (invalid : Field.Invalid)
  | outsideWindow (start : Int) (window : Value)
  deriving Repr

namespace BuildFault

/-- The message up to the list of faults, where there is one. -/
def headline : BuildFault → String
  | noEntityType => "entity_type must not be empty"
  | invalidSort field _ => "Invalid sort on '" ++ field.display ++ "': "
  | invalidRange start length _ =>
    "Invalid range start=" ++ start.quoted ++ " length=" ++ length.quoted ++ ": "
  | outsideWindow start window =>
    "Range start " ++ toString start ++ " is outside the result window of " ++
      window.display ++ "; set an explicit length."

/-- The values that the message shows. -/
def shown : BuildFault → List Value
  | noEntityType => []
  | invalidSort field _ => [field]
  | invalidRange start length _ => [start, length]
  | outsideWindow start window => [.int start, window]

/-- The faults of the directive, where it has any. -/
def invalid? : BuildFault → Option Field.Invalid
  | invalidSort _ invalid | invalidRange _ _ invalid => some invalid
  | _ => none

def message (fault : BuildFault) : String :=
  fault.headline ++ (if fault.invalid?.isSome then "<validation errors>" else "")

end BuildFault

/-- A method of the cluster. -/
inductive Method
  | search
  | count
  deriving DecidableEq, Repr

def Method.name : Method → String
  | .search => "search"
  | .count => "count"

/-- Why an answer has no part of some name: it has no entry of the name, or is no mapping at all. -/
inductive Lack
  | entry
  | mapping
  deriving DecidableEq, Repr

/-- Why the cluster gave no usable answer. A transport that fails gives its error a name. -/
inductive ClusterFault
  | noDriver
  | unreachable (error reason : String)
  | refused (method : Method) (index : String) (error reason : String)
  | noCount (entityType : Value) (lack : Lack)
  | noHits (entityType : Value) (lack : Lack)
  deriving Repr

namespace ClusterFault

def kind : ClusterFault → ErrorKind
  | noDriver => .configuration
  | unreachable .. => .clusterConnection
  | refused .. | noCount .. | noHits .. => .clusterQuery

def message : ClusterFault → String
  | noDriver => "opensearch-py package is required.  " ++
      "Install with: pip install elasticquery[opensearch]"
  | unreachable _ reason => "Failed to reach OpenSearch: " ++ reason
  | refused method index _ reason =>
    "OpenSearch " ++ method.name ++ " on '" ++ index ++ "' failed: " ++ reason
  | noCount entityType _ => "Count response for '" ++ entityType.display ++ "' has no 'count'"
  | noHits entityType _ => "Search response for '" ++ entityType.display ++ "' has no hits"

end ClusterFault

/-- A value that is of the right type and still cannot be used. -/
inductive ValueFault
  | noNumeral (base : Nat) (text : String)
  | noFloat (text : String)
  | noCharacter
  | tooManyDigits (count : Nat)
  | tooLongToWrite
  | tooManyParts
  | tooFewParts (got : Nat)
  | noPair (index size : Nat)
  | windowNotPositive
  | calendar (fault : CalendarFault)
  | unknownLevel (name : String)
  | noField (record name : String)
  deriving Repr

namespace ValueFault

def message : ValueFault → String
  | noNumeral base text => "invalid literal for int() with base " ++ toString base ++ ": " ++
      String.ofList ((Text.quoted text).toList.take 200)
  | noFloat text => "could not convert string to float: " ++ Text.quoted text
  | noCharacter => "chr() arg not in range(0x110000)"
  | tooManyDigits count => Numeral.tooManyDigitsMessage count
  | tooLongToWrite => Numeral.notWritableMessage
  | tooManyParts => "too many values to unpack (expected 2)"
  | tooFewParts got => "not enough values to unpack (expected 2, got " ++ toString got ++ ")"
  | noPair index size => "dictionary update sequence element #" ++ toString index ++
      " has length " ++ toString size ++ "; 2 is required"
  | windowNotPositive => "max_result_window must be positive"
  | calendar fault => fault.message
  | unknownLevel name => "Unknown level: " ++ Text.quoted name
  | noField record name => "\"" ++ record ++ "\" object has no field \"" ++ name ++ "\""

end ValueFault

inductive Failure
  | malformed (cause : Malformed)
  | unsupported (cause : Unsupported)
  | build (cause : BuildFault)
  | cluster (cause : ClusterFault)
  | raised (kind : ErrorKind) (message : String)
  | foreign (name message : String)
  | invalid (cause : Field.Invalid)
  | badValue (cause : ValueFault)
  | noKey (key : Value)
  | noFile (subject file : String)
  | isFolder (file : String)
  | brokenYaml (fault : Yaml.Fault)
  | badSetting (field source : String)
  | wrongType
  | noAttribute
  | incomparable
  | undecodable
  | unencodable
  | tooDeep
  | tooLarge
  | outOfRange (subject : String)
  deriving Repr

namespace Failure

/-- The kind of an error of the library's own. -/
def kind? : Failure → Option ErrorKind
  | malformed _ => some .malformedCondition
  | unsupported _ => some .unsupportedOperator
  | build _ => some .queryBuild
  | cluster fault => some fault.kind
  | raised kind _ => some kind
  | _ => none

def message : Failure → String
  | malformed cause => cause.message
  | unsupported cause => cause.message
  | build cause => cause.message
  | cluster cause => cause.message
  | raised _ message => message
  | foreign _ message => message
  | badValue cause => cause.message
  | noKey key => key.quoted
  | noFile subject file => subject ++ " not found: " ++ file
  | isFolder file => "[Errno 21] Is a directory: " ++ Text.quoted file
  | brokenYaml _ => "<yaml error>"
  | tooLarge => "Python int too large to convert to C int"
  | outOfRange subject => subject ++ " index out of range"
  | badSetting field source =>
    "error parsing value for field \"" ++ field ++ "\" from source \"" ++ source ++ "\""
  | invalid _ | wrongType | noAttribute | incomparable | undecodable | unencodable | tooDeep => ""

/-- A failure whose message shows values; one that is too long to be written out fails instead. -/
def showing (values : List Value) (failure : Failure) : Failure :=
  if values.all Value.isWritable then failure else .badValue .tooLongToWrite

end Failure

/-- The failure of a directive, or of showing it. -/
def BuildFault.toFailure (fault : BuildFault) : Failure :=
  Failure.showing fault.shown (.build fault)

/-- The failure of an entry of a document, or of showing it. -/
def Malformed.toFailure (cause : Malformed) : Failure :=
  Failure.showing cause.shown (.malformed cause)

end SearchFilter
