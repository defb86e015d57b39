/-!
# Notices

The fleet reports what it does in notices.  A notice is data; its level and its wording are functions of it.
-/

set_option autoImplicit false

namespace LiteserverFleet

inductive NoticeLevel where
  | debug
  | info
  | warn
deriving DecidableEq

def NoticeLevel.name : NoticeLevel → String
  | .debug => "DEBUG"
  | .info => "INFO"
  | .warn => "WARN"

/-- Something that the fleet did or found. -/
inductive Notice where
  | checkingAlive
  | checkingArchival
  | stillInFlight (worker : Nat)
  | retrying (worker : Nat)
  | waitingForRetry (worker : Nat)
  | excluded (worker : Nat) (failures : Nat)
  | staysExcluded (worker : Nat)
  | recoveryProbe (worker : Nat)
  | answered (worker : Nat) (seqno : Nat)
  | becameAlive (worker : Nat) (seqno : Nat)
  | recovered (worker : Nat) (seqno : Nat)
  | unanswered (worker : Nat) (error : String)
  | stoppedResponding (worker : Nat) (error : String)
  | archivalFound (worker : Nat) (archival : Bool)
  | resettingKeyStore (root : String)
  | startingWorkers (count : Nat)
  | fleetStarted (count : Nat)
  | monitorStopped
  | splitting (count : Nat) (directory : String)
  | wrote (path : String)
deriving DecidableEq

namespace Notice

def level : Notice → NoticeLevel
  | excluded _ _ => .warn
  | stoppedResponding _ _ => .warn
  | recoveryProbe _ => .info
  | becameAlive _ _ => .info
  | recovered _ _ => .info
  | resettingKeyStore _ => .info
  | startingWorkers _ => .info
  | fleetStarted _ => .info
  | monitorStopped => .info
  | splitting _ _ => .info
  | _ => .debug

def workerName (worker : Nat) : String :=
  "LS #" ++ toString worker

def message : Notice → String
  | checkingAlive => "Checking alive workers"
  | checkingArchival => "Checking archival workers"
  | stillInFlight w => workerName w ++ " is waiting for update"
  | retrying w => workerName w ++ " retrying check"
  | waitingForRetry w => workerName w ++ " waiting for retry"
  | excluded w failures =>
      workerName w ++ " excluded after " ++ toString failures ++ " consecutive failed alive checks"
  | staysExcluded w => workerName w ++ " is dead, retry count exceeded"
  | recoveryProbe w => workerName w ++ " sending recovery probe"
  | answered w seqno => workerName w ++ " is_alive: true last_mc_seqno: " ++ toString seqno
  | becameAlive w seqno => workerName w ++ " is alive at seqno " ++ toString seqno
  | recovered w seqno => workerName w ++ " recovered at seqno " ++ toString seqno
  | unanswered w error => workerName w ++ " is_alive: false (" ++ error ++ ")"
  | stoppedResponding w error => workerName w ++ " stopped responding: " ++ error
  | archivalFound w archival =>
      workerName w ++ " archival: " ++ (if archival then "true" else "false")
  | resettingKeyStore root => "resetting key store at " ++ root
  | startingWorkers count => "starting " ++ toString count ++ " client workers"
  | fleetStarted count => "Multiclient started with " ++ toString count ++ " workers"
  | monitorStopped => "Multiclient monitor stopped"
  | splitting count directory =>
      "Splitting " ++ toString count ++ " liteservers into " ++ directory
  | wrote path => "Wrote " ++ path

def line (n : Notice) : String :=
  n.level.name ++ " " ++ n.message

end Notice

end LiteserverFleet
