import LiteserverFleet.Json.Decoder
import LiteserverFleet.Json.SyntaxError

/-!
# What can go wrong

Each error names its cause; the wording is one function of the cause.  An error may have a cause of its
own kind below it (a failed file operation, a text that is no JSON), which reports show on a line of its own.
-/

set_option autoImplicit false

namespace LiteserverFleet

inductive FileFailure where
  | notFound
  | alreadyExists
  | notDirectory
  | isDirectory
  | invalidArgument
  | nameTooLong
  | directoryNotEmpty
  | notText
  | zeroInPath
  | other (detail : String)
deriving DecidableEq

/-- The wording of a failed file operation, with the system's error number where there is one. -/
def FileFailure.message : FileFailure → String
  | .notFound => "No such file or directory (os error 2)"
  | .alreadyExists => "File exists (os error 17)"
  | .notDirectory => "Not a directory (os error 20)"
  | .isDirectory => "Is a directory (os error 21)"
  | .invalidArgument => "Invalid argument (os error 22)"
  | .nameTooLong => "File name too long (os error 36)"
  | .directoryNotEmpty => "Directory not empty (os error 39)"
  | .notText => "stream did not contain valid UTF-8"
  | .zeroInPath => "file name contained an unexpected NUL byte"
  | .other detail => detail

inductive ConfigFault where
  | notAnObject
  | missingField (name : String)
  | wrongFieldType (name : String) (expected : String)
  | malformedEntry (mismatch : Json.Mismatch)
  | zeroSetting (name : String)
  | other (detail : String)

def ConfigFault.message : ConfigFault → String
  | .notAnObject => "global config must be a JSON object"
  | .missingField name => "missing field '" ++ name ++ "'"
  | .wrongFieldType name expected => "field '" ++ name ++ "' must be a JSON " ++ expected
  | .malformedEntry mismatch => "malformed liteserver entry: " ++ mismatch.message
  | .zeroSetting name => name ++ " must be greater than zero"
  | .other detail => detail

inductive RequestFault where
  | broadcastWithRoute
  | singleWithCount
  | singleIndexCount (given : Nat)
  | multipleWithBoth
  | multipleWithNeither
  | other (detail : String)
deriving DecidableEq

def RequestFault.message : RequestFault → String
  | .broadcastWithRoute => "broadcast mode takes neither liteserver indexes nor a clients number"
  | .singleWithCount => "single mode does not take a clients number"
  | .singleIndexCount given =>
      "single mode takes exactly one liteserver index, got " ++ toString given
  | .multipleWithBoth =>
      "multiple mode takes either liteserver indexes or a clients number, not both"
  | .multipleWithNeither => "multiple mode requires liteserver indexes or a clients number"
  | .other detail => detail

inductive FleetError where
  | configRead (path : String) (cause : FileFailure)
  | configParse (cause : Json.SyntaxError)
  | invalidConfig (fault : ConfigFault)
  | noLiteservers
  | io (cause : FileFailure)
  | invalidRequest (fault : RequestFault)
  | noEligibleWorkers
  | timeout (milliseconds : Nat)
  | client (detail : String)
  | shutdown

namespace FleetError

def message : FleetError → String
  | .configRead path cause => "Failed to read config " ++ path ++ ": " ++ cause.message
  | .configParse cause => "Config parse error: " ++ cause.message
  | .invalidConfig fault => "Invalid config: " ++ fault.message
  | .noLiteservers => "Config contains no liteservers"
  | .io cause => "IO error: " ++ cause.message
  | .invalidRequest fault => "Invalid request: " ++ fault.message
  | .noEligibleWorkers => "No eligible liteserver for request"
  | .timeout milliseconds => "Request timeout after " ++ toString milliseconds ++ "ms"
  | .client detail => "Client error: " ++ detail
  | .shutdown => "Multiclient has shut down"

def causes : FleetError → List String
  | .configRead _ cause => [cause.message]
  | .configParse cause => [cause.message]
  | .io cause => [cause.message]
  | _ => []

/-- A later attempt may succeed: nothing was eligible, a call took too long, or a connection failed. -/
def isRetryable : FleetError → Bool
  | .noEligibleWorkers => true
  | .timeout _ => true
  | .client _ => true
  | _ => false

end FleetError

end LiteserverFleet
