import LiteserverFleet.Proofs.Passes
import LiteserverFleet.Proofs.Settings
import Mathlib.Algebra.Order.Floor.Div

/-!
# The backoff of a failing worker

A worker that fails every alive-probe after the same delay, shorter than a tick, is probed at times that
the settings tell: `Backoff.probeTime?`.  The first probe is sent on the first tick, and each retry on
the first tick behind the retry interval; over the failure ceiling one more tick passes until the worker
is marked, and from then on recovery probes are sent on the first tick behind each cooldown.

`Stage` says what the record of such a worker is behind each tick, and how many probes it was sent.
-/

set_option autoImplicit false

namespace LiteserverFleet.Backoff

section Schedule

variable (settings : Settings) (delay : Nat)

/-- How many ticks a retry comes behind the probe that failed. -/
def retryTicks : Nat :=
  (delay + settings.health.retryInterval) ⌈/⌉ settings.schedule.tickInterval

/-- How many ticks lie between two recovery probes. -/
def cooldownTicks (cooldown : Nat) : Nat :=
  cooldown ⌈/⌉ settings.schedule.tickInterval

/-- When the first probe is sent, and each of the retries. -/
def retryTime : Nat → Nat
  | 0 => settings.schedule.tickInterval
  | n + 1 => retryTime n + retryTicks settings delay * settings.schedule.tickInterval

def exclusionTime : Nat :=
  retryTime settings delay (settings.health.maxFailures + 1) + settings.schedule.tickInterval

def recoveryTime? (m : Nat) : Option Nat :=
  settings.health.exclusionCooldown.map fun cooldown =>
    exclusionTime settings delay + m * cooldownTicks settings cooldown * settings.schedule.tickInterval

/-- When the alive-probe with a number is sent, counting from zero: the first probe and the retries up
to the one over the failure ceiling, and then the recovery probes, of which there may be none. -/
def probeTime? (n : Nat) : Option Nat :=
  if n ≤ settings.health.maxFailures + 1 then some (retryTime settings delay n)
  else recoveryTime? settings delay (n - (settings.health.maxFailures + 1))

def retryTick (n : Nat) : Nat :=
  1 + n * retryTicks settings delay

def exclusionTick : Nat :=
  retryTick settings delay (settings.health.maxFailures + 1) + 1

def recoveryTick (cooldown m : Nat) : Nat :=
  exclusionTick settings delay + m * cooldownTicks settings cooldown

def probeTick? (n : Nat) : Option Nat :=
  if n ≤ settings.health.maxFailures + 1 then some (retryTick settings delay n)
  else settings.health.exclusionCooldown.map fun cooldown =>
    recoveryTick settings delay cooldown (n - (settings.health.maxFailures + 1))

theorem retryTime_eq (n : Nat) :
    retryTime settings delay n = retryTick settings delay n * settings.schedule.tickInterval := by
  induction n with
  | zero => simp [retryTime, retryTick]
  | succ n ih =>
      simp only [retryTime, ih, retryTick]
      rw [← Nat.add_mul, Nat.add_assoc, ← Nat.succ_mul]

theorem exclusionTime_eq :
    exclusionTime settings delay = exclusionTick settings delay * settings.schedule.tickInterval := by
  rw [exclusionTime, retryTime_eq, exclusionTick, Nat.succ_mul]

theorem probeTime?_eq (n : Nat) :
    probeTime? settings delay n =
      (probeTick? settings delay n).map (· * settings.schedule.tickInterval) := by
  unfold probeTime? probeTick?
  split
  · rw [retryTime_eq]
    rfl
  · rw [recoveryTime?, Option.map_map]
    simp only [exclusionTime_eq, recoveryTick, ← Nat.add_mul]
    rfl

/-- The records of a worker that fails every alive-probe, behind each tick: with the number of ticks, the
number of probes it was sent, and whether it has failed the last of them yet. -/
inductive Stage : Nat → Nat → Bool → Worker → Prop where
  | fresh : Stage 0 0 false {}
  | asked {n : Nat} (within : n ≤ settings.health.maxFailures + 1) :
      Stage (retryTick settings delay n) (n + 1) true { failures := n, probeInFlight := true }
  | waiting {n ticks : Nat} (within : n ≤ settings.health.maxFailures)
      (since : retryTick settings delay n ≤ ticks) (early : ticks < retryTick settings delay (n + 1)) :
      Stage ticks (n + 1) false
        { failures := n
          retryAt := some (retryTick settings delay n * settings.schedule.tickInterval + delay +
            settings.health.retryInterval) }
  | unmarked (retryAt : Option Nat) :
      Stage (retryTick settings delay (settings.health.maxFailures + 1))
        (settings.health.maxFailures + 2) false
        { failures := settings.health.maxFailures + 1, retryAt }
  | excluded {ticks : Nat} (retryAt : Option Nat) (permanent : settings.health.exclusionCooldown = none)
      (since : exclusionTick settings delay ≤ ticks) :
      Stage ticks (settings.health.maxFailures + 2) false
        { failures := settings.health.maxFailures + 1, retryAt
          excludedSince := some (exclusionTime settings delay) }
  | coolingDown {m cooldown ticks : Nat} (retryAt : Option Nat)
      (allowed : settings.health.exclusionCooldown = some cooldown)
      (since : recoveryTick settings delay cooldown m ≤ ticks)
      (early : ticks < recoveryTick settings delay cooldown (m + 1)) :
      Stage ticks (settings.health.maxFailures + 2 + m) false
        { failures := settings.health.maxFailures + 1, retryAt
          excludedSince :=
            some (recoveryTick settings delay cooldown m * settings.schedule.tickInterval) }
  | recovering {m cooldown : Nat} (allowed : settings.health.exclusionCooldown = some cooldown) :
      Stage (recoveryTick settings delay cooldown (m + 1)) (settings.health.maxFailures + 2 + (m + 1))
        true
        { failures := settings.health.maxFailures + 1, probeInFlight := true
          excludedSince :=
            some (recoveryTick settings delay cooldown (m + 1) * settings.schedule.tickInterval) }

end Schedule

section Stage

variable {settings : Settings} {delay ticks sent : Nat} {asked : Bool} {w : Worker}

theorem Stage.dead (stage : Stage settings delay ticks sent asked w) : w.alive = false := by
  cases stage <;> rfl

/-- A span of time behind a tick has passed at a later tick if that many ticks have come since. -/
theorem passed_iff {interval span tick now : Nat} (positive : 0 < interval) :
    tick * interval + span ≤ now * interval ↔ tick + span ⌈/⌉ interval ≤ now := by
  by_cases later : tick ≤ now
  · obtain ⟨ticks, rfl⟩ := Nat.exists_eq_add_of_le later
    rw [Nat.add_mul, Nat.add_le_add_iff_left, Nat.add_le_add_iff_left, ceilDiv_le_iff_le_mul positive,
      Nat.mul_comm]
  · have before : now * interval < tick * interval :=
      Nat.mul_lt_mul_of_pos_right (Nat.lt_of_not_le later) positive
    constructor <;> intro passed <;> omega

theorem ceilDiv_pos {interval span : Nat} (positive : 0 < interval) (nonzero : 0 < span) :
    0 < span ⌈/⌉ interval := by
  apply Nat.pos_of_ne_zero
  intro zero
  have none := (ceilDiv_le_iff_le_mul positive).mp (Nat.le_of_eq zero)
  omega

theorem retryTick_succ (n : Nat) :
    retryTick settings delay (n + 1) =
      retryTick settings delay n + retryTicks settings delay := by
  simp only [retryTick, Nat.succ_mul, Nat.add_assoc]

theorem recoveryTick_succ (cooldown m : Nat) :
    recoveryTick settings delay cooldown (m + 1) =
      recoveryTick settings delay cooldown m + cooldownTicks settings cooldown := by
  simp only [recoveryTick, Nat.succ_mul, Nat.add_assoc]

theorem retryTick_lt (accepted : settings.validate = .ok ()) (n : Nat) :
    retryTick settings delay n < retryTick settings delay (n + 1) := by
  obtain ⟨interval, -, retry, -, -⟩ := (settings.validate_eq_ok_iff).mp accepted
  have positive : 0 < retryTicks settings delay := by
    apply ceilDiv_pos
    · exact Nat.pos_of_ne_zero interval
    · omega
  rw [retryTick_succ]
  exact Nat.lt_add_of_pos_right positive

theorem recoveryTick_lt {cooldown : Nat} (accepted : settings.validate = .ok ())
    (allowed : settings.health.exclusionCooldown = some cooldown) (m : Nat) :
    recoveryTick settings delay cooldown m < recoveryTick settings delay cooldown (m + 1) := by
  obtain ⟨interval, -, -, -, lasting⟩ := (settings.validate_eq_ok_iff).mp accepted
  have positive : 0 < cooldownTicks settings cooldown := by
    apply ceilDiv_pos
    · exact Nat.pos_of_ne_zero interval
    · apply Nat.pos_of_ne_zero
      rintro rfl
      exact lasting allowed
  rw [recoveryTick_succ]
  exact Nat.lt_add_of_pos_right positive

/-- The deadline of a failed retry is reached on the tick of the next one. -/
theorem retryDeadline_le_iff (positive : 0 < settings.schedule.tickInterval) (n now : Nat) :
    retryTick settings delay n * settings.schedule.tickInterval + delay +
        settings.health.retryInterval ≤ now * settings.schedule.tickInterval ↔
      retryTick settings delay (n + 1) ≤ now := by
  rw [Nat.add_assoc, retryTick_succ]
  exact passed_iff positive

/-- The cooldown behind a recovery probe is over on the tick of the next one. -/
theorem cooldown_over_iff {cooldown m now : Nat} (positive : 0 < settings.schedule.tickInterval)
    (later : recoveryTick settings delay cooldown m ≤ now) :
    cooldown ≤ now * settings.schedule.tickInterval -
        recoveryTick settings delay cooldown m * settings.schedule.tickInterval ↔
      recoveryTick settings delay cooldown (m + 1) ≤ now := by
  have ordered := Nat.mul_le_mul_right settings.schedule.tickInterval later
  rw [recoveryTick_succ, cooldownTicks, ← passed_iff positive]
  omega

theorem Stage.fail (stage : Stage settings delay ticks sent true w)
    (accepted : settings.validate = .ok ()) (failure : FleetError) :
    Stage settings delay ticks sent false
      (Health.afterProbe settings.health (ticks * settings.schedule.tickInterval + delay)
        (.error failure) w) := by
  cases stage with
  | @asked n within =>
      by_cases last : n = settings.health.maxFailures + 1
      · subst last
        exact .unmarked _
      · have tolerated : n ≤ settings.health.maxFailures := by omega
        exact .waiting tolerated (Nat.le_refl _) (retryTick_lt accepted n)
  | @recovering m cooldown allowed =>
      exact .coolingDown _ allowed (Nat.le_refl _) (recoveryTick_lt accepted allowed (m + 1))

/-- What a tick makes of a worker that has failed the last of its probes. -/
theorem Stage.tick (stage : Stage settings delay ticks sent false w)
    (accepted : settings.validate = .ok ()) (index : Nat) :
    let judged :=
      Health.judge settings.health index ((ticks + 1) * settings.schedule.tickInterval) w
    (judged.verdict = .probe ∧ Stage settings delay (ticks + 1) (sent + 1) true judged.worker) ∨
      (judged.verdict ≠ .probe ∧ Stage settings delay (ticks + 1) sent false judged.worker) := by
  obtain ⟨interval, -, -, -, lasting⟩ := (settings.validate_eq_ok_iff).mp accepted
  have positive : 0 < settings.schedule.tickInterval := Nat.pos_of_ne_zero interval
  cases stage with
  | fresh =>
      have asked : Stage settings delay (retryTick settings delay 0) 1 true { probeInFlight := true } :=
        .asked (Nat.zero_le _)
      left
      simpa [retryTick, Health.judge, Health.sendProbe] using asked
  | @waiting n ticks within since early =>
      have notOver : ¬ settings.health.maxFailures < n := Nat.not_lt_of_le within
      have passed : _ ↔ retryTick settings delay (n + 1) ≤ ticks + 1 :=
        retryDeadline_le_iff positive n (ticks + 1)
      by_cases due : retryTick settings delay (n + 1) ≤ ticks + 1
      · have asked : Stage settings delay (retryTick settings delay (n + 1)) (n + 1 + 1) true
            { failures := n + 1, probeInFlight := true } := .asked (Nat.succ_le_succ within)
        have isTick : retryTick settings delay (n + 1) = ticks + 1 := Nat.le_antisymm due early
        rw [isTick] at asked
        have reached := passed.mpr due
        left
        simpa [Health.judge, Health.sendProbe, notOver, reached] using asked
      · have notReached := mt passed.mp due
        have waiting : Stage settings delay (ticks + 1) (n + 1) false _ :=
          .waiting within (Nat.le_succ_of_le since) (Nat.lt_of_not_le due)
        right
        simpa [Health.judge, notOver, notReached] using waiting
  | unmarked retryAt =>
      right
      cases allowed : settings.health.exclusionCooldown with
      | none =>
          have excluded : Stage settings delay (exclusionTick settings delay) _ false _ :=
            .excluded retryAt allowed (Nat.le_refl _)
          rw [exclusionTime_eq] at excluded
          simpa [Health.judge, Health.judgeExcluded, exclusionTick] using excluded
      | some cooldown =>
          have coolingDown : Stage settings delay (recoveryTick settings delay cooldown 0) _ false _ :=
            .coolingDown retryAt allowed (Nat.le_refl _) (recoveryTick_lt accepted allowed 0)
          simpa [Health.judge, Health.judgeExcluded, recoveryTick, exclusionTick] using coolingDown
  | excluded retryAt permanent since =>
      have excluded : Stage settings delay (ticks + 1) _ false _ :=
        .excluded retryAt permanent (Nat.le_succ_of_le since)
      right
      simpa [Health.judge, Health.judgeExcluded, permanent] using excluded
  | @coolingDown m cooldown ticks retryAt allowed since early =>
      have waited := cooldown_over_iff positive (Nat.le_succ_of_le since)
      by_cases due : recoveryTick settings delay cooldown (m + 1) ≤ ticks + 1
      · have recovering : Stage settings delay (recoveryTick settings delay cooldown (m + 1))
            (settings.health.maxFailures + 2 + (m + 1)) true _ := .recovering allowed
        have isTick : recoveryTick settings delay cooldown (m + 1) = ticks + 1 :=
          Nat.le_antisymm due early
        rw [isTick] at recovering
        have reached := waited.mpr due
        left
        simpa [Health.judge, Health.judgeExcluded, Health.sendProbe, allowed, reached, Nat.add_assoc]
          using recovering
      · have coolingDown : Stage settings delay (ticks + 1) _ false _ :=
          .coolingDown retryAt allowed (Nat.le_succ_of_le since) (Nat.lt_of_not_le due)
        have notReached := mt waited.mp due
        right
        simpa [Health.judge, Health.judgeExcluded, allowed, notReached] using coolingDown

/-! ## Which probes have been sent -/

theorem retryTick_le {n m : Nat} (before : n ≤ m) :
    retryTick settings delay n ≤ retryTick settings delay m :=
  Nat.add_le_add_left (Nat.mul_le_mul_right _ before) 1

theorem recoveryTick_le {cooldown n m : Nat} (before : n ≤ m) :
    recoveryTick settings delay cooldown n ≤ recoveryTick settings delay cooldown m :=
  Nat.add_le_add_left (Nat.mul_le_mul_right _ before) _

theorem exclusionTick_le_recoveryTick (cooldown m : Nat) :
    exclusionTick settings delay ≤ recoveryTick settings delay cooldown m :=
  Nat.le_add_right _ _

theorem retryTick_lt_exclusionTick {n : Nat} (within : n ≤ settings.health.maxFailures + 1) :
    retryTick settings delay n < exclusionTick settings delay :=
  Nat.lt_succ_of_le (retryTick_le within)

theorem probeTick?_retry {n : Nat} (within : n ≤ settings.health.maxFailures + 1) :
    probeTick? settings delay n = some (retryTick settings delay n) :=
  if_pos within

theorem probeTick?_recovery {cooldown m : Nat}
    (allowed : settings.health.exclusionCooldown = some cooldown) :
    probeTick? settings delay (settings.health.maxFailures + 2 + m) =
      some (recoveryTick settings delay cooldown (m + 1)) := by
  have beyond : ¬ settings.health.maxFailures + 2 + m ≤ settings.health.maxFailures + 1 := by omega
  have number : settings.health.maxFailures + 2 + m - (settings.health.maxFailures + 1) = m + 1 := by
    omega
  rw [probeTick?, if_neg beyond, allowed, number]
  rfl

theorem probeTick?_permanent {n : Nat} (permanent : settings.health.exclusionCooldown = none)
    (beyond : settings.health.maxFailures + 1 < n) : probeTick? settings delay n = none := by
  rw [probeTick?, if_neg (Nat.not_le_of_lt beyond), permanent]
  rfl

theorem probeTick?_le {n m later : Nat} (before : n ≤ m)
    (isLater : probeTick? settings delay m = some later) :
    ∃ earlier, probeTick? settings delay n = some earlier ∧ earlier ≤ later := by
  by_cases within : m ≤ settings.health.maxFailures + 1
  · rw [probeTick?_retry within] at isLater
    cases Option.some.inj isLater
    exact ⟨_, probeTick?_retry (Nat.le_trans before within), retryTick_le before⟩
  · cases allowed : settings.health.exclusionCooldown with
    | none =>
        rw [probeTick?_permanent allowed (Nat.lt_of_not_le within)] at isLater
        cases isLater
    | some cooldown =>
        have beyond : settings.health.maxFailures + 2 ≤ m := Nat.lt_of_not_le within
        obtain ⟨recovery, rfl⟩ := Nat.exists_eq_add_of_le beyond
        rw [probeTick?_recovery allowed] at isLater
        cases Option.some.inj isLater
        by_cases retry : n ≤ settings.health.maxFailures + 1
        · refine ⟨_, probeTick?_retry retry, Nat.le_of_lt ?_⟩
          exact Nat.lt_of_lt_of_le (retryTick_lt_exclusionTick retry)
            (exclusionTick_le_recoveryTick cooldown _)
        · have beyond : settings.health.maxFailures + 2 ≤ n := Nat.lt_of_not_le retry
          obtain ⟨earlier, rfl⟩ := Nat.exists_eq_add_of_le beyond
          exact ⟨_, probeTick?_recovery allowed, recoveryTick_le (by omega)⟩

theorem Stage.last_sent (stage : Stage settings delay ticks sent asked w) :
    sent = 0 ∨ ∃ n tick, sent = n + 1 ∧ probeTick? settings delay n = some tick ∧ tick ≤ ticks := by
  cases stage with
  | fresh => exact .inl rfl
  | asked within => exact .inr ⟨_, _, rfl, probeTick?_retry within, Nat.le_refl _⟩
  | waiting within since =>
      exact .inr ⟨_, _, rfl, probeTick?_retry (Nat.le_succ_of_le within), since⟩
  | unmarked => exact .inr ⟨_, _, rfl, probeTick?_retry (Nat.le_refl _), Nat.le_refl _⟩
  | excluded _ permanent since =>
      refine .inr ⟨_, _, rfl, probeTick?_retry (Nat.le_refl _), Nat.le_trans ?_ since⟩
      exact Nat.le_of_lt (retryTick_lt_exclusionTick (Nat.le_refl _))
  | @coolingDown m cooldown _ _ allowed since =>
      cases m with
      | zero =>
          refine .inr ⟨_, _, rfl, probeTick?_retry (Nat.le_refl _), Nat.le_trans ?_ since⟩
          exact Nat.le_trans (Nat.le_of_lt (retryTick_lt_exclusionTick (Nat.le_refl _)))
            (exclusionTick_le_recoveryTick cooldown 0)
      | succ m => exact .inr ⟨_, _, rfl, probeTick?_recovery allowed, since⟩
  | recovering allowed => exact .inr ⟨_, _, rfl, probeTick?_recovery allowed, Nat.le_refl _⟩

theorem exclusionTick_le_of_recovery {tick : Nat}
    (isTick : probeTick? settings delay (settings.health.maxFailures + 2) = some tick) :
    exclusionTick settings delay ≤ tick := by
  cases allowed : settings.health.exclusionCooldown with
  | none =>
      rw [probeTick?_permanent allowed (Nat.lt_succ_self _)] at isTick
      cases isTick
  | some cooldown =>
      rw [probeTick?_recovery (m := 0) allowed] at isTick
      cases Option.some.inj isTick
      exact exclusionTick_le_recoveryTick cooldown 1

theorem Stage.next_later {tick : Nat} (stage : Stage settings delay ticks sent asked w)
    (accepted : settings.validate = .ok ()) (isNext : probeTick? settings delay sent = some tick) :
    ticks < tick := by
  cases stage with
  | fresh =>
      rw [probeTick?_retry (Nat.zero_le _)] at isNext
      cases Option.some.inj isNext
      exact Nat.lt_of_lt_of_le Nat.one_pos (Nat.le_add_right _ _)
  | @asked n within =>
      by_cases last : n = settings.health.maxFailures + 1
      · subst last
        exact Nat.lt_of_lt_of_le (retryTick_lt_exclusionTick within)
          (exclusionTick_le_of_recovery isNext)
      · rw [probeTick?_retry (by omega)] at isNext
        cases Option.some.inj isNext
        exact retryTick_lt accepted n
  | waiting within since early =>
      rw [probeTick?_retry (Nat.succ_le_succ within)] at isNext
      cases Option.some.inj isNext
      exact early
  | unmarked =>
      exact Nat.lt_of_lt_of_le (retryTick_lt_exclusionTick (Nat.le_refl _))
        (exclusionTick_le_of_recovery isNext)
  | excluded _ permanent => simp [probeTick?_permanent permanent (Nat.lt_succ_self _)] at isNext
  | coolingDown _ allowed since early =>
      rw [probeTick?_recovery allowed] at isNext
      cases Option.some.inj isNext
      exact early
  | @recovering m cooldown allowed =>
      rw [probeTick?_recovery allowed] at isNext
      cases Option.some.inj isNext
      exact recoveryTick_lt accepted allowed (m + 1)

/-- The alive-probes that were sent are those whose ticks have come. -/
theorem Stage.sent_iff (stage : Stage settings delay ticks sent asked w)
    (accepted : settings.validate = .ok ()) (n : Nat) :
    n < sent ↔ ∃ tick, probeTick? settings delay n = some tick ∧ tick ≤ ticks := by
  constructor
  · intro wasSent
    rcases stage.last_sent with none | ⟨last, tick, isLast, isTick, reached⟩
    · omega
    · obtain ⟨earlier, isEarlier, before⟩ := probeTick?_le (Nat.le_of_lt_succ (isLast ▸ wasSent)) isTick
      exact ⟨earlier, isEarlier, Nat.le_trans before reached⟩
  · rintro ⟨tick, isTick, reached⟩
    apply Nat.lt_of_not_le
    intro notSent
    obtain ⟨next, isNext, before⟩ := probeTick?_le notSent isTick
    have later := stage.next_later accepted isNext
    omega

theorem Stage.excluded_iff (stage : Stage settings delay ticks sent asked w) :
    w.isExcluded = true ↔ exclusionTick settings delay ≤ ticks := by
  cases stage with
  | fresh => simp [Worker.isExcluded, exclusionTick]
  | asked within => simp [Worker.isExcluded, retryTick_lt_exclusionTick within]
  | @waiting n ticks within since early =>
      have before : retryTick settings delay (n + 1) < exclusionTick settings delay :=
        retryTick_lt_exclusionTick (Nat.succ_le_succ within)
      have notYet : ¬ exclusionTick settings delay ≤ ticks := by omega
      simp [Worker.isExcluded, notYet]
  | unmarked => simp [Worker.isExcluded, retryTick_lt_exclusionTick]
  | excluded _ permanent since => simp [Worker.isExcluded, since]
  | @coolingDown m cooldown _ _ allowed since =>
      have marked := Nat.le_trans (exclusionTick_le_recoveryTick cooldown m) since
      simp [Worker.isExcluded, marked]
  | @recovering m cooldown allowed =>
      simp [Worker.isExcluded, exclusionTick_le_recoveryTick]

/-- Up to the first recovery probe, the mark is the time of the tick that made it. -/
theorem Stage.excludedSince (stage : Stage settings delay ticks sent asked w)
    (noRecovery : sent ≤ settings.health.maxFailures + 2)
    (marked : exclusionTick settings delay ≤ ticks) :
    w.excludedSince = some (exclusionTime settings delay) := by
  have isExcluded := stage.excluded_iff.mpr marked
  cases stage with
  | fresh | asked | waiting | unmarked => cases isExcluded
  | excluded => rfl
  | @coolingDown m cooldown =>
      have first : m = 0 := by omega
      simp [first, exclusionTime_eq, recoveryTick]
  | recovering => omega

/-! ## Ticks and times -/

theorem tick_le_iff {interval tick now clock : Nat} (ticked : now * interval ≤ clock)
    (ahead : clock < (now + 1) * interval) : tick * interval ≤ clock ↔ tick ≤ now := by
  constructor
  · intro reached
    exact Nat.le_of_lt_succ (Nat.lt_of_mul_lt_mul_right (Nat.lt_of_le_of_lt reached ahead))
  · intro reached
    exact Nat.le_trans (Nat.mul_le_mul_right _ reached) ticked

section Clock

variable {clock : Nat} (ticked : ticks * settings.schedule.tickInterval ≤ clock)
  (ahead : clock < (ticks + 1) * settings.schedule.tickInterval)

include ticked ahead

theorem Stage.sent_iff_time (stage : Stage settings delay ticks sent asked w)
    (accepted : settings.validate = .ok ()) (n : Nat) :
    n < sent ↔ ∃ time, probeTime? settings delay n = some time ∧ time ≤ clock := by
  rw [stage.sent_iff accepted, probeTime?_eq]
  cases probeTick? settings delay n with
  | none => simp
  | some tick => simp [tick_le_iff ticked ahead]

theorem exclusionTick_le_iff :
    exclusionTick settings delay ≤ ticks ↔ exclusionTime settings delay ≤ clock := by
  rw [exclusionTime_eq, tick_le_iff ticked ahead]

end Clock

end Stage

end LiteserverFleet.Backoff
