import LiteserverFleet.Health
import LiteserverFleet.Schedule

/-!
# Settings

How a fleet is started and watched.  Intervals and timeouts of zero are refused.
-/

set_option autoImplicit false

namespace LiteserverFleet

structure Settings where
  configPath : String
  /-- Where the connections keep their keys, each in a directory of its own. -/
  keyStoreRoot : Option String := none
  resetKeyStore : Bool := false
  networkName : String := "ton"
  schedule : ScheduleSettings := {}
  health : HealthSettings := {}
  seed : Option UInt64 := none
deriving DecidableEq

namespace Settings

/-- The durations that must not be zero, by name, in the order in which they are checked. -/
def positiveDurations (s : Settings) : List (String × Nat) :=
  [("tick interval", s.schedule.tickInterval),
    ("archival interval", s.schedule.archivalInterval),
    ("retry interval", s.health.retryInterval),
    ("probe timeout", s.health.probeTimeout)]
  ++ (s.health.exclusionCooldown.map fun c => ("exclusion cooldown", c)).toList

/-- Checks the settings; of several zero durations, the first one is reported. -/
def validate (s : Settings) : Except FleetError Unit :=
  match s.positiveDurations.find? fun duration => duration.2 = 0 with
  | some (name, _) => .error (.invalidConfig (.zeroSetting name))
  | none => .ok ()

end Settings

end LiteserverFleet
