import LiteserverFleet.Settings

/-!
# Accepted settings

Settings are accepted exactly if no duration among them is zero, other than the delay of the first
archival pass.
-/

set_option autoImplicit false

namespace LiteserverFleet.Settings

theorem validate_eq_ok_iff_positive (s : Settings) :
    s.validate = .ok () ↔ ∀ duration ∈ s.positiveDurations, duration.2 ≠ 0 := by
  unfold validate
  cases found : s.positiveDurations.find? fun duration => duration.2 = 0 with
  | none => simpa using found
  | some zero =>
      have isZero := List.find?_some found
      have member := List.mem_of_find?_eq_some found
      simp only [reduceCtorEq, false_iff]
      intro positive
      exact positive zero member (by simpa using isZero)

theorem validate_eq_ok_iff (s : Settings) :
    s.validate = .ok () ↔
      s.schedule.tickInterval ≠ 0 ∧ s.schedule.archivalInterval ≠ 0 ∧ s.health.retryInterval ≠ 0 ∧
        s.health.probeTimeout ≠ 0 ∧ s.health.exclusionCooldown ≠ some 0 := by
  rw [validate_eq_ok_iff_positive]
  cases cooldown : s.health.exclusionCooldown with
  | none => simp [positiveDurations, cooldown]
  | some time => simp [positiveDurations, cooldown]

end LiteserverFleet.Settings
