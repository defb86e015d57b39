/-!
# Schedule

The health pass is made on every tick.  The archival pass is made on the first tick at or behind its deadline, and
then has a new deadline.
-/

set_option autoImplicit false

namespace LiteserverFleet

structure ScheduleSettings where
  tickInterval : Nat := 1000
  archivalFirstCheck : Nat := 2000
  /-- The least time between two archival passes. -/
  archivalInterval : Nat := 10000
deriving DecidableEq

namespace Schedule

def archivalDue (deadline now : Nat) : Bool :=
  deadline ≤ now

/-- The deadline of the archival pass behind a time: a pass that is made counts the interval from the time at
which it is made. -/
def nextDeadline (settings : ScheduleSettings) (deadline now : Nat) : Nat :=
  if archivalDue deadline now then now + settings.archivalInterval else deadline

end Schedule

end LiteserverFleet
