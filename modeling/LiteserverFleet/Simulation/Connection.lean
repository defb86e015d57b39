import LiteserverFleet.Archival
import LiteserverFleet.Monitor

/-!
# Scripted connections

A scripted connection answers each kind of call from a script: a list of behaviours that are used up one a call,
the last of them for good.  It counts its calls and keeps the last block that was looked up.
-/

set_option autoImplicit false

namespace LiteserverFleet

structure Behaviour (α : Type := Nat) where
  /-- How many milliseconds the answer takes; without it, it never comes. -/
  latency : Option Nat := some 0
  result : Except FleetError α

namespace Behaviour

def unscripted : Behaviour where
  result := .error (.client "unscripted")

def duration (b : Behaviour) (timeout : Nat) : Nat :=
  b.latency.elim timeout (min timeout)

/-- What a probe shows for which some time has passed.  An answer that is there counts, also one that came just
when the timeout ended. -/
def outcome (b : Behaviour) (timeout elapsed : Nat) : Except FleetError Nat :=
  if b.latency.any (· ≤ elapsed) then b.result else .error (.timeout timeout)

end Behaviour

abbrev Script := List Behaviour

namespace Script

def take : Script → Behaviour × Script
  | [] => (.unscripted, [])
  | [last] => (last, [last])
  | next :: rest => (next, rest)

end Script

structure Connection where
  head : Script := []
  lookup : Script := []
  call : Script := []
  headCalls : Nat := 0
  lookupCalls : Nat := 0
  callCalls : Nat := 0
  lastLookup : Option BlockLookup := none

namespace Connection

def answerProbe (c : Connection) : ProbeKind → Behaviour × Connection
  | .alive =>
      let (behaviour, rest) := Script.take c.head
      (behaviour, { c with head := rest, headCalls := c.headCalls + 1 })
  | .archival =>
      let (behaviour, rest) := Script.take c.lookup
      (behaviour,
        { c with
          lookup := rest, lookupCalls := c.lookupCalls + 1, lastLookup := some Archival.reference })

def answerCall (c : Connection) : Behaviour × Connection :=
  let (behaviour, rest) := Script.take c.call
  (behaviour, { c with call := rest, callCalls := c.callCalls + 1 })

def rescript (c : Connection) (head lookup call : Option Script) : Connection :=
  { c with
    head := head.getD c.head, lookup := lookup.getD c.lookup, call := call.getD c.call }

end Connection

end LiteserverFleet
