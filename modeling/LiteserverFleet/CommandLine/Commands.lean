import LiteserverFleet.Files.Store
import LiteserverFleet.Network.Liteserver
import LiteserverFleet.Notice

/-!
# The commands

Listing the liteservers of a network config, and splitting it into one config for each liteserver.  A failure says
what was being done, and has the causes of the failure below it.
-/

set_option autoImplicit false

namespace LiteserverFleet

inductive CommandFailure where
  | readConfig (path : String) (cause : FileFailure)
  | badConfig (path : String) (cause : FleetError)
  | fleet (cause : FleetError)
  | createDirectory (path : String) (cause : FileFailure)
  | writeConfig (path : String) (cause : FileFailure)

namespace CommandFailure

/-- What was being done, and the causes below it, outermost first. -/
def chain : CommandFailure → List String
  | readConfig path cause => ["Failed to read global config " ++ path, cause.message]
  | badConfig path cause => ("Invalid global config " ++ path) :: cause.message :: cause.causes
  | fleet cause => cause.message :: cause.causes
  | createDirectory path cause => ["Failed to create output directory " ++ path, cause.message]
  | writeConfig path cause => ["Failed to write " ++ path, cause.message]

def fleetError? : CommandFailure → Option FleetError
  | badConfig _ cause => some cause
  | fleet cause => some cause
  | _ => none

/-- The lines for the causes of a failure; they are numbered if there are several. -/
def causeLines : List String → List String
  | [] => []
  | [cause] => ["    " ++ cause]
  | causes => causes.mapIdx fun i cause =>
      let number := toString i
      String.ofList (List.replicate (5 - number.length) ' ') ++ number ++ ": " ++ cause

def report (failure : CommandFailure) : String :=
  match failure.chain with
  | [] => ""
  | [text] => "Error: " ++ text ++ "\n"
  | text :: causes =>
      "Error: " ++ text ++ "\n\nCaused by:\n" ++ "\n".intercalate (causeLines causes) ++ "\n"

end CommandFailure

namespace Split

def fileName (index : Nat) : String :=
  "ls_" ++ toString index ++ ".json"

def files (directory : String) (documents : List Json.Value) : List (String × String) :=
  documents.mapIdx fun index document =>
    (Path.join directory (fileName index), document.prettyText)

section Store

variable {m : Type → Type} [Monad m] [FileStore m]

def writeEach : List (String × String) → m (Except CommandFailure (List String) × List Notice)
  | [] => pure (.ok [], [])
  | (path, text) :: rest => do
      match ← FileStore.writeFile path text.toUTF8 with
      | .error e => pure (.error (.writeConfig path e), [])
      | .ok () =>
          let (later, notices) ← writeEach rest
          pure (later.map (path :: ·), .wrote path :: notices)

/-- Writes one config for each liteserver into a directory, which is made if it is missing.  Returns the paths
in index order. -/
def write (config : NetworkConfig) (directory : String) :
    m (Except CommandFailure (List String) × List Notice) := do
  match config.partition with
  | .error e => pure (.error (.fleet e), [])
  | .ok documents =>
      match ← FileStore.createDirectories directory with
      | .error e => pure (.error (.createDirectory directory e), [])
      | .ok () => writeEach (files directory documents)

end Store

end Split

def loadConfig {m : Type → Type} [Monad m] [FileStore m] (path : String) :
    m (Except CommandFailure NetworkConfig) := do
  match ← FileStore.readText path with
  | .error e => pure (.error (.readConfig path e))
  | .ok text => pure ((NetworkConfig.parse text).mapError (.badConfig path))

def listConfig (config : NetworkConfig) : Except CommandFailure (List String) :=
  config.listing.mapError .fleet

end LiteserverFleet
