import LiteserverFleet.Proofs.Monitor.InFlight

/-!
# The record of a worker

The fields of a worker are written by retries, exclusion marks, recovery probes and completed
probes, in any order. `Worker.Consistent` is the joint invariant: no clause of it is kept without
the others.  It holds of every worker at any time of any run, whatever the times of the ticks are,
so a worker that has failed never waits without a time to wait for.
-/

set_option autoImplicit false

namespace LiteserverFleet

structure Worker.Untouched (w : Worker) : Prop where
  failures : w.failures = 0
  excludedSince : w.excludedSince = none
  headSeqno : w.headSeqno = none

structure Worker.Consistent (settings : HealthSettings) (w : Worker) : Prop where
  alive_clean : w.alive = true → w.failures = 0 ∧ w.retryAt = none ∧ w.excludedSince = none
  excluded_over : w.isExcluded = true → w.alive = false ∧ w.failures = settings.maxFailures + 1
  inFlight_noDeadline : w.probeInFlight = true → w.retryAt = none
  idle_dead : w.alive = false → w.probeInFlight = false → w.retryAt.isSome = true ∨ w.Untouched
  bounded : w.failures ≤ settings.maxFailures + 1

namespace Health

variable {settings : HealthSettings} {now : Nat} {w next : Worker} {verdict : Verdict}

theorem consistent_fresh (settings : HealthSettings) : Worker.Consistent settings {} where
  alive_clean alive := by cases alive
  excluded_over excluded := by cases excluded
  inFlight_noDeadline _ := rfl
  idle_dead _ _ := .inr ⟨rfl, rfl, rfl⟩
  bounded := Nat.zero_le _

/-- A dead worker over the ceiling has a retry time, for it has failed. -/
theorem over_hasDeadline (before : w.Consistent settings) (idle : w.probeInFlight = false)
    (dead : w.alive = false) (beyond : settings.maxFailures < w.failures) :
    w.retryAt.isSome = true := by
  rcases before.idle_dead dead idle with deadline | untouched
  · exact deadline
  · have none := untouched.failures
    omega

theorem Judged.consistent (judged : Judged settings now w verdict next)
    (before : w.Consistent settings) : next.Consistent settings := by
  cases judged with
  | inFlight waiting => exact before
  | coolingDown idle dead beyond mark early => exact before
  | early idle dead within deadline notYet => exact before
  | stranded idle dead within noDeadline failed => exact before
  | alive idle alive =>
      exact {
        alive_clean := before.alive_clean
        excluded_over := before.excluded_over
        inFlight_noDeadline := fun _ => (before.alive_clean alive).2.1
        idle_dead := fun _ stillIdle => by cases stillIdle
        bounded := before.bounded }
  | marked idle dead beyond unmarked =>
      -- The mark keeps the retry time; being over the ceiling means one over it, by the bound.
      have deadline := over_hasDeadline before idle dead beyond
      have bounded := before.bounded
      exact {
        alive_clean := fun alive => by simp [dead] at alive
        excluded_over := fun _ => ⟨dead, by show w.failures = _; omega⟩
        inFlight_noDeadline := before.inFlight_noDeadline
        idle_dead := fun _ _ => .inl deadline
        bounded := bounded }
  | recovery idle dead beyond mark allowed late =>
      have bounded := before.bounded
      exact {
        alive_clean := fun alive => by simp [dead] at alive
        excluded_over := fun _ => ⟨dead, by show w.failures = _; omega⟩
        inFlight_noDeadline := fun _ => rfl
        idle_dead := fun _ stillIdle => by cases stillIdle
        bounded := bounded }
  | retry idle dead within deadline reached =>
      have unmarked : w.isExcluded = false := by
        cases excluded : w.isExcluded with
        | false => rfl
        | true => have beyond := (before.excluded_over excluded).2; omega
      exact {
        alive_clean := fun alive => by simp [dead] at alive
        excluded_over := fun excluded => by
          change w.isExcluded = true at excluded
          simp [unmarked] at excluded
        inFlight_noDeadline := fun _ => rfl
        idle_dead := fun _ stillIdle => by cases stillIdle
        bounded := Nat.succ_le_succ within }
  | first idle dead noDeadline noFailure =>
      exact {
        alive_clean := before.alive_clean
        excluded_over := before.excluded_over
        inFlight_noDeadline := fun _ => noDeadline
        idle_dead := fun _ stillIdle => by cases stillIdle
        bounded := before.bounded }

theorem afterProbe_consistent (settings : HealthSettings) (now : Nat) (result : ProbeResult)
    (before : w.Consistent settings) : (afterProbe settings now result w).Consistent settings := by
  cases result with
  | ok seqno =>
      exact {
        alive_clean := fun _ => ⟨rfl, rfl, rfl⟩
        excluded_over := fun excluded => by cases excluded
        inFlight_noDeadline := fun _ => rfl
        idle_dead := fun dead => by cases dead
        bounded := Nat.zero_le _ }
  | error failure =>
      exact {
        alive_clean := fun alive => by cases alive
        excluded_over := fun excluded => ⟨rfl, (before.excluded_over excluded).2⟩
        inFlight_noDeadline := fun waiting => by cases waiting
        idle_dead := fun _ _ => .inl rfl
        bounded := before.bounded }

theorem Judged.idle (judged : Judged settings now w verdict next)
    (idle : next.probeInFlight = false) : w.probeInFlight = false ∧ next.retryAt = w.retryAt := by
  cases judged with
  | inFlight waiting => exact ⟨idle, rfl⟩
  | alive => cases idle
  | marked idleBefore => exact ⟨idleBefore, rfl⟩
  | coolingDown => exact ⟨idle, rfl⟩
  | recovery => cases idle
  | retry => cases idle
  | early => exact ⟨idle, rfl⟩
  | first => cases idle
  | stranded => exact ⟨idle, rfl⟩

theorem Judged.waits (judged : Judged settings now w verdict next)
    (consistent : w.Consistent settings) (told : verdict = .waitingForRetry) :
    ∃ time, w.retryAt = some time ∧ now < time := by
  cases judged with
  | early idle dead within deadline notYet => exact ⟨_, deadline, notYet⟩
  | stranded idle dead within noDeadline failed =>
      rcases consistent.idle_dead dead idle with deadline | untouched
      · simp [noDeadline] at deadline
      · exact absurd untouched.failures failed
  | _ => cases told

theorem consistent_archival (archival waiting : Bool) (before : w.Consistent settings) :
    (w.withArchival archival waiting).Consistent settings where
  alive_clean := before.alive_clean
  excluded_over := before.excluded_over
  inFlight_noDeadline := before.inFlight_noDeadline
  idle_dead dead idle := (before.idle_dead dead idle).imp id fun u => ⟨u.1, u.2, u.3⟩
  bounded := before.bounded

end Health

namespace Monitor

theorem workerAfter_consistent (settings : Settings) (deadline i : Nat) {w : Worker} (event : Event)
    (before : w.Consistent settings.health) :
    (workerAfter settings deadline i w event).Consistent settings.health := by
  cases event with
  | tick now =>
      have judged := (Health.judge_judged settings.health i now w).consistent before
      simp only [workerAfter, tickWorker_eq]
      exact Health.consistent_archival _ _ judged
  | aliveCompleted worker now result =>
      simp only [workerAfter]
      split
      · exact Health.afterProbe_consistent settings.health now result before
      · exact before
  | archivalCompleted worker succeeded =>
      simp only [workerAfter]
      split
      · exact Health.consistent_archival succeeded false before
      · exact before
  | select selection => exact before
  | snapshot => exact before

end Monitor

namespace Watch

variable {σ : Type} [WordSource σ] {settings : Settings} {size i : Nat} {s : Watch σ} {w : Worker}

theorem Reachable.consistent (reached : Reachable settings size s)
    (found : s.monitor.fleet[i]? = some w) : w.Consistent settings.health :=
  reached.record_induction (P := fun _ w _ => w.Consistent settings.health)
    (fun _ => Health.consistent_fresh settings.health)
    (fun deadline i _ event _ _ before _ _ =>
      Monitor.workerAfter_consistent settings deadline i event before) found

/-- An idle worker that is dead and has no retry time has never been sent an alive-probe. -/
theorem Reachable.neverProbed (reached : Reachable settings size s)
    (found : s.monitor.fleet[i]? = some w) :
    w.alive = false → w.probeInFlight = false → w.retryAt = none →
      sentIn s.past ⟨.alive, i⟩ = 0 := by
  refine reached.record_induction (P := fun i w past =>
    w.alive = false → w.probeInFlight = false → w.retryAt = none → sentIn past ⟨.alive, i⟩ = 0)
    (fun _ _ _ _ => rfl) ?_ found
  intro deadline i w event sent past before _ toWorker dead idle noDeadline
  have counted := count_of_filter toWorker .alive
  rw [show sentIn (⟨event, sent⟩ :: past) ⟨.alive, i⟩ =
    sent.count ⟨.alive, i⟩ + sentIn past ⟨.alive, i⟩ by simp [sentIn], counted]
  cases event with
  | tick now =>
      -- A tick that leaves the worker idle has sent it nothing.
      have judged := Health.judge_judged settings.health i now w
      have flags := Monitor.saw_awaits settings deadline i w .alive
        (show (Monitor.Event.tick now).completed? = none from rfl)
      simp only [Worker.awaits, idle, Bool.toNat_false] at flags
      simp only [Monitor.workerAfter, Monitor.tickWorker_eq] at dead idle noDeadline
      obtain ⟨idleBefore, sameDeadline⟩ := judged.idle idle
      rw [before (judged.frame.1 ▸ dead) idleBefore (sameDeadline ▸ noDeadline)]
      omega
  | aliveCompleted worker now result =>
      simp only [Monitor.workerAfter] at dead idle noDeadline
      split at dead
      · next same =>
        rw [if_pos same] at noDeadline
        cases result with
        | ok seqno => cases dead
        | error failure => cases noDeadline
      · next other =>
        rw [if_neg other] at idle noDeadline
        exact Nat.add_eq_zero_iff.mpr ⟨rfl, before dead idle noDeadline⟩
  | archivalCompleted worker succeeded =>
      simp only [Monitor.workerAfter] at dead idle noDeadline
      split at dead
      · next same =>
        rw [if_pos same] at idle noDeadline
        exact Nat.add_eq_zero_iff.mpr ⟨rfl, before dead idle noDeadline⟩
      · next other =>
        rw [if_neg other] at idle noDeadline
        exact Nat.add_eq_zero_iff.mpr ⟨rfl, before dead idle noDeadline⟩
  | select selection => exact Nat.add_eq_zero_iff.mpr ⟨rfl, before dead idle noDeadline⟩
  | snapshot => exact Nat.add_eq_zero_iff.mpr ⟨rfl, before dead idle noDeadline⟩

/-- At any time of any run, the record of a worker is consistent; one that is dead, idle and
without a retry time has never been sent an alive-probe; and one that is told to wait has a time
to wait for that has not come. -/
theorem Reachable.record_invariant (reached : Reachable settings size s)
    (found : s.monitor.fleet[i]? = some w) :
    w.Consistent settings.health ∧
      (w.alive = false → w.probeInFlight = false → w.retryAt = none →
        sentIn s.past ⟨.alive, i⟩ = 0) ∧
      ∀ now, (Health.judge settings.health i now w).verdict = .waitingForRetry →
        ∃ time, w.retryAt = some time ∧ now < time := by
  refine ⟨reached.consistent found, reached.neverProbed found, ?_⟩
  intro now told
  exact (Health.judge_judged settings.health i now w).waits (reached.consistent found) told

/-- A worker that has failed twice where no failure is tolerated is marked, dead and one over the
ceiling; its next retry time stands. -/
theorem record_invariant_excluded :
    ∃ s : Watch Random.Keystream,
      Reachable { configPath := "net", health := { maxFailures := 0 } } 1 s ∧
        ∃ w, s.monitor.fleet[0]? = some w ∧ w.isExcluded = true ∧ w.alive = false ∧
          w.failures = 1 ∧ w.retryAt = some 22100 := by
  have reached : Reachable { configPath := "net", health := { maxFailures := 0 } } 1 _ :=
    (Reachable.start (Random.Keystream.ofSeed 7)).run (show run? _ _ [.tick 1000,
      .answer ⟨.alive, 0⟩ (.error (.timeout 5000)), .deliver 1100, .tick 12000,
      .answer ⟨.alive, 0⟩ (.error (.timeout 5000)), .deliver 12100, .tick 13000] = some _ from rfl)
  have consistent := (Reachable.record_invariant (i := 0) reached rfl).1
  obtain ⟨dead, beyond⟩ := consistent.excluded_over rfl
  exact ⟨_, reached, _, rfl, rfl, dead, beyond, rfl⟩

end Watch

end LiteserverFleet
