import LiteserverFleet.Json.Printer
import LiteserverFleet.Routing

/-!
# Workers

A worker is a connection to one liteserver together with what its probes have shown so far.  The index of a
worker is its place in the fleet, which is the place of its liteserver in the network config.  Times are
milliseconds since the fleet was started.
-/

set_option autoImplicit false

namespace LiteserverFleet

open Json (Value)

structure Worker where
  alive : Bool := false
  probeInFlight : Bool := false
  headSeqno : Option Nat := none
  /-- How many retries have been counted since the last success. -/
  failures : Nat := 0
  retryAt : Option Nat := none
  archival : Bool := false
  archivalInFlight : Bool := false
  /-- When the worker was found over the failure ceiling, or was sent its last recovery probe. -/
  excludedSince : Option Nat := none
deriving DecidableEq

/-- The workers of a fleet, in index order. -/
abbrev Fleet := List Worker

namespace Worker

def isExcluded (w : Worker) : Bool :=
  w.excludedSince.isSome

instance : Eligible Worker where
  isAlive := alive
  isArchival := archival

end Worker

structure WorkerStatus where
  index : Nat
  alive : Bool
  archival : Bool
  probeInFlight : Bool
  headSeqno : Option Nat
  failures : Nat
  excluded : Bool
deriving DecidableEq

namespace WorkerStatus

instance : Eligible WorkerStatus where
  isAlive := alive
  isArchival := archival

def toValue (s : WorkerStatus) : Value :=
  .object [
    ("index", .ofNat s.index),
    ("alive", .boolean s.alive),
    ("archival", .boolean s.archival),
    ("probe_in_flight", .boolean s.probeInFlight),
    ("last_chain_seqno", .ofOption .ofNat s.headSeqno),
    ("consecutive_failures", .ofNat s.failures),
    ("excluded", .boolean s.excluded)]

end WorkerStatus

def Worker.status (index : Nat) (w : Worker) : WorkerStatus where
  index := index
  alive := w.alive
  archival := w.archival
  probeInFlight := w.probeInFlight
  headSeqno := w.headSeqno
  failures := w.failures
  excluded := w.isExcluded

namespace Fleet

def fresh (size : Nat) : Fleet :=
  List.replicate size {}

def snapshot (fleet : Fleet) : List WorkerStatus :=
  fleet.mapIdx Worker.status

def snapshotText (fleet : Fleet) : String :=
  (Value.array (fleet.snapshot.map WorkerStatus.toValue)).compactText

end Fleet

end LiteserverFleet
