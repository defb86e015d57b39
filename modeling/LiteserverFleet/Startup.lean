import LiteserverFleet.Files.Store
import LiteserverFleet.Network.Config
import LiteserverFleet.Notice
import LiteserverFleet.Settings

/-!
# Starting a fleet

A fleet is started from the network config at a path: the config is read and partitioned, the key store is emptied if
that is wanted, and one connection is opened for each document, in order.  The first failure ends the start; no
connection is opened before everything else has succeeded.
-/

set_option autoImplicit false

namespace LiteserverFleet

structure ConnectionSettings where
  networkConfig : String
  keyStore : Option String
  networkName : String
deriving DecidableEq

/-- The outcome of a start: the connections or the error, the attempts to open one, and what was reported. -/
structure Startup (γ : Type) where
  result : Except FleetError (List γ)
  attempts : List (Nat × ConnectionSettings) := []
  notices : List Notice := []

abbrev Connector (γ : Type) := Nat → ConnectionSettings → Except FleetError γ

namespace Startup

def workerKeyStore (root : String) (index : Nat) : String :=
  Path.join root ("ls_" ++ toString index)

def connectionSettings (settings : Settings) (index : Nat) (document : Json.Value) :
    ConnectionSettings where
  networkConfig := document.compactText
  keyStore := settings.keyStoreRoot.map fun root => workerKeyStore root index
  networkName := settings.networkName

/-- Opens the connections of documents, from an index on, until one fails. -/
def connectAll {γ : Type} (settings : Settings) (connect : Connector γ) :
    Nat → List Json.Value → Startup γ
  | _, [] => { result := .ok [] }
  | index, document :: rest =>
      let wanted := connectionSettings settings index document
      match connect index wanted with
      | .error e => { result := .error e, attempts := [(index, wanted)] }
      | .ok connection =>
          let later := connectAll settings connect (index + 1) rest
          { later with
            result := later.result.map (connection :: ·)
            attempts := (index, wanted) :: later.attempts }

section Store

variable {m : Type → Type} [Monad m] [FileStore m]

def resetKeyStore (root : String) : m (Except FleetError Unit × List Notice) := do
  match ← FileStore.pathExists root with
  | .error e => pure (.error (.io e), [])
  | .ok found =>
      let notices := if found then [Notice.resettingKeyStore root] else []
      let removed ← if found then FileStore.removeDirectories root else pure (.ok ())
      match removed with
      | .error e => pure (.error (.io e), notices)
      | .ok () =>
          let created ← FileStore.createDirectories root
          pure (created.mapError .io, notices)

def prepareKeyStore (settings : Settings) : m (Except FleetError Unit × List Notice) :=
  match settings.keyStoreRoot with
  | some root => if settings.resetKeyStore then resetKeyStore root else pure (.ok (), [])
  | none => pure (.ok (), [])

def documents (settings : Settings) : m (Except FleetError (List Json.Value)) := do
  match ← FileStore.readText settings.configPath with
  | .error e => pure (.error (.configRead settings.configPath e))
  | .ok text => pure (NetworkConfig.parse text >>= NetworkConfig.partition)

def bootstrap {γ : Type} (settings : Settings) (connect : Connector γ) : m (Startup γ) := do
  match ← documents settings with
  | .error e => pure { result := .error e }
  | .ok documents =>
      match ← prepareKeyStore settings with
      | (.error e, notices) => pure { result := .error e, notices }
      | (.ok (), notices) =>
          let opened := connectAll settings connect 0 documents
          pure { opened with notices := notices ++ [.startingWorkers documents.length] }

def start {γ : Type} (settings : Settings) (connect : Connector γ) : m (Startup γ) := do
  match settings.validate with
  | .error e => pure { result := .error e }
  | .ok () =>
      let opened ← bootstrap settings connect
      match opened.result with
      | .error _ => pure opened
      | .ok connections =>
          pure { opened with
            notices := opened.notices ++ [.fleetStarted connections.length] }

end Store

end Startup

end LiteserverFleet
