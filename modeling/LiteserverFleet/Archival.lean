import LiteserverFleet.Health

/-!
# Archival workers

A worker keeps full history if it can still resolve a block close to the start of the chain; others have
pruned it.  Alive workers are asked for such a block from time to time, one request at a time.
-/

set_option autoImplicit false

namespace LiteserverFleet

structure BlockLookup where
  mode : Nat
  workchain : Int
  shard : Int
  seqno : Nat
  logicalTime : Nat
  unixTime : Nat
deriving DecidableEq

namespace Archival

def bySeqno : Nat := 1

def mainWorkchain : Int := -1

def wholeShard : Int := Int64.minValue.toInt

/-- The reference block: the third block of the main chain. -/
def reference : BlockLookup where
  mode := bySeqno
  workchain := mainWorkchain
  shard := wholeShard
  seqno := 3
  logicalTime := 0
  unixTime := 0

def isDue (w : Worker) : Bool :=
  w.alive && !w.archivalInFlight

def dueFrom : Nat → Fleet → List Nat
  | _, [] => []
  | first, w :: rest =>
      if isDue w then first :: dueFrom (first + 1) rest else dueFrom (first + 1) rest

/-- One archival pass: marks the workers that are due and tells which ones, ascending. -/
def pass (fleet : Fleet) : Pass where
  due := dueFrom 0 fleet
  fleet := fleet.map fun w => if isDue w then { w with archivalInFlight := true } else w

def afterProbe (archival : Bool) (w : Worker) : Worker :=
  { w with archivalInFlight := false, archival := archival }

end Archival

end LiteserverFleet
