import LiteserverFleet.Proofs.Monitor.History

/-!
# When a worker is due

An idle worker has a time from which on it is probed, or none.  `Worker.dueTime?` tells it from the
record and from whether the worker has ever been probed; on the workers of a run the verdict is
`probe` exactly from that time on.

The one idle worker without a due time that has a cooldown to look forward to is over the failure
ceiling and not marked yet.  Being judged marks it, and it is due as soon as the cooldown has passed
since then.  So no worker is stranded.
-/

set_option autoImplicit false

namespace LiteserverFleet

/-- From when on an idle worker is probed.  An alive one is due at any time, and so is one that has
never been probed; a dead one waits for its retry time, or over the failure ceiling for the cooldown
since its mark. -/
def Worker.dueTime? (settings : HealthSettings) (probed : Bool) (w : Worker) : Option Nat :=
  if w.alive || !probed then some 0
  else if w.failures ≤ settings.maxFailures then w.retryAt
  else w.excludedSince.bind fun since => settings.exclusionCooldown.map fun cooldown => since + cooldown

namespace Health

/-- The verdicts on a worker that is judged at some times, one after the other. -/
def verdicts (settings : HealthSettings) (index : Nat) : Worker → List Nat → List Verdict
  | _, [] => []
  | w, now :: later =>
      let judged := judge settings index now w
      judged.verdict :: verdicts settings index judged.worker later

section DueTime

variable {settings : HealthSettings} {probed : Bool} {w next : Worker} {now index : Nat}
  {verdict : Verdict}

theorem probed_of_deadline {time : Nat}
    (neverProbed : probed = false ↔ w.alive = false ∧ w.retryAt = none)
    (deadline : w.retryAt = some time) : probed = true := by
  by_contra unprobed
  obtain ⟨-, noDeadline⟩ := neverProbed.mp (by simpa using unprobed)
  simp [deadline] at noDeadline

theorem probed_of_over (consistent : w.Consistent settings) (idle : w.probeInFlight = false)
    (neverProbed : probed = false ↔ w.alive = false ∧ w.retryAt = none) (dead : w.alive = false)
    (beyond : settings.maxFailures < w.failures) : probed = true := by
  have deadline := over_hasDeadline consistent idle dead beyond
  obtain ⟨time, deadline⟩ := Option.isSome_iff_exists.mp deadline
  exact probed_of_deadline neverProbed deadline

theorem Judged.probe_iff_due (judged : Judged settings now w verdict next)
    (idle : w.probeInFlight = false) (consistent : w.Consistent settings)
    (lasting : settings.exclusionCooldown ≠ some 0)
    (neverProbed : probed = false ↔ w.alive = false ∧ w.retryAt = none) :
    verdict = .probe ↔ ∃ time, w.dueTime? settings probed = some time ∧ time ≤ now := by
  cases judged with
  | inFlight waiting => simp [idle] at waiting
  | alive _ alive => simp [Worker.dueTime?, alive]
  | first _ dead noDeadline noFailure =>
      have unprobed : probed = false := neverProbed.mpr ⟨dead, noDeadline⟩
      simp [Worker.dueTime?, unprobed]
  | stranded _ dead within noDeadline failed =>
      rcases consistent.idle_dead dead idle with deadline | untouched
      · simp [noDeadline] at deadline
      · exact absurd untouched.failures failed
  | retry _ dead within deadline reached =>
      have probed := probed_of_deadline neverProbed deadline
      simp [Worker.dueTime?, dead, probed, within, deadline, reached]
  | early _ dead within deadline notYet =>
      have probed := probed_of_deadline neverProbed deadline
      simp [Worker.dueTime?, dead, probed, within, deadline, notYet]
  | marked _ dead beyond unmarked =>
      have probed := probed_of_over consistent idle neverProbed dead beyond
      simp [Worker.dueTime?, dead, probed, Nat.not_le.mpr beyond, unmarked]
  | @coolingDown since _ dead beyond mark early =>
      have probed := probed_of_over consistent idle neverProbed dead beyond
      simp only [Worker.dueTime?, dead, probed, Nat.not_le.mpr beyond, mark, Bool.not_true,
        Bool.or_self, Bool.false_eq_true, if_false, Option.bind_some, reduceCtorEq, false_iff]
      rintro ⟨time, isDue, reached⟩
      obtain ⟨cooldown, allowed, rfl⟩ := Option.map_eq_some_iff.mp isDue
      have := early cooldown allowed
      omega
  | @recovery since cooldown _ dead beyond mark allowed late =>
      have probed := probed_of_over consistent idle neverProbed dead beyond
      -- A cooldown of zero would have passed even for a clock that stands before the mark.
      have positive : cooldown ≠ 0 := by
        intro zero
        exact lasting (by rw [allowed, zero])
      simp only [Worker.dueTime?, dead, probed, Nat.not_le.mpr beyond, mark, allowed, Bool.not_true,
        Bool.or_self, Bool.false_eq_true, if_false, Option.bind_some, Option.map_some, true_iff,
        Option.some.injEq, exists_eq_left']
      omega

theorem consistent_marked (before : w.Consistent settings) (idle : w.probeInFlight = false)
    (dead : w.alive = false) (beyond : settings.maxFailures < w.failures)
    (unmarked : w.excludedSince = none) (since : Nat) :
    Worker.Consistent settings { w with excludedSince := some since } := by
  have judged : Judged settings since w .excluded { w with excludedSince := some since } :=
    .marked idle dead beyond unmarked
  exact judged.consistent before

theorem dueTime?_marked (dead : w.alive = false) (beyond : settings.maxFailures < w.failures)
    (wasProbed : probed = true) (since : Nat) :
    Worker.dueTime? settings probed { w with excludedSince := some since } =
      settings.exclusionCooldown.map fun cooldown => since + cooldown := by
  simp [Worker.dueTime?, dead, wasProbed, Nat.not_le.mpr beyond]

theorem dueTime?_or_unmarked {cooldown : Nat}
    (neverProbed : probed = false ↔ w.alive = false ∧ w.retryAt = none)
    (allowed : settings.exclusionCooldown = some cooldown) :
    (∃ time, w.dueTime? settings probed = some time) ∨
      (w.alive = false ∧ settings.maxFailures < w.failures ∧ w.excludedSince = none) := by
  cases alive : w.alive with
  | true => exact .inl ⟨0, by simp [Worker.dueTime?, alive]⟩
  | false =>
      cases wasProbed : probed with
      | false => exact .inl ⟨0, by simp [Worker.dueTime?]⟩
      | true =>
          by_cases within : w.failures ≤ settings.maxFailures
          · cases deadline : w.retryAt with
            | none => simp [neverProbed.mpr ⟨alive, deadline⟩] at wasProbed
            | some time =>
                exact .inl ⟨time, by simp [Worker.dueTime?, alive, within, deadline]⟩
          · cases mark : w.excludedSince with
            | none => exact .inr ⟨rfl, by omega, rfl⟩
            | some since =>
                exact .inl ⟨since + cooldown, by
                  simp [Worker.dueTime?, alive, within, mark, allowed]⟩

/-- A worker with a due time is probed by the first judgement from that time on, whatever judgements
come before. -/
theorem probe_mem_verdicts {time later : Nat} (idle : w.probeInFlight = false)
    (consistent : w.Consistent settings) (lasting : settings.exclusionCooldown ≠ some 0)
    (neverProbed : probed = false ↔ w.alive = false ∧ w.retryAt = none)
    (due : w.dueTime? settings probed = some time) (reached : time ≤ later) (times : List Nat) :
    .probe ∈ verdicts settings index w (times ++ [later]) := by
  induction times with
  | nil =>
      have judged := judge_judged settings index later w
      have probe := (judged.probe_iff_due idle consistent lasting neverProbed).mpr ⟨time, due, reached⟩
      simp [verdicts, probe]
  | cons now rest ih =>
      have judged := judge_judged settings index now w
      by_cases probe : (judge settings index now w).verdict = .probe
      · simp [verdicts, probe]
      · rcases judged.unchanged_or_marked probe with same | ⟨dead, beyond, unmarked⟩
        · simp only [List.cons_append, verdicts, same]
          exact List.mem_cons_of_mem _ ih
        · -- A worker that is marked only now has no due time.
          have wasProbed := probed_of_over consistent idle neverProbed dead beyond
          simp [Worker.dueTime?, dead, wasProbed, Nat.not_le.mpr beyond, unmarked] at due

end DueTime

end Health

namespace Watch

variable {σ : Type} [WordSource σ] {settings : Settings} {size i : Nat} {s : Watch σ} {w : Worker}

theorem length_aliveResults (i : Nat) (past : List Moment) :
    (aliveResults i past).length = appliedIn past ⟨.alive, i⟩ := by
  rw [aliveResults, List.length_filterMap_eq_countP, appliedIn]
  refine List.countP_congr fun moment _ => ?_
  cases moment.event with
  | aliveCompleted worker now result =>
      by_cases same : worker = i <;>
        simp [Monitor.Event.aliveResult?, Monitor.Event.completed?, same]
  | archivalCompleted | tick | select | snapshot =>
      simp [Monitor.Event.aliveResult?, Monitor.Event.completed?]

/-- Of the idle workers, those that were never probed are the dead ones without a retry time. -/
theorem Reachable.neverProbed_iff (reached : Reachable settings size s)
    (found : s.monitor.fleet[i]? = some w) (idle : w.probeInFlight = false) :
    sentIn s.past ⟨.alive, i⟩ = 0 ↔ w.alive = false ∧ w.retryAt = none := by
  constructor
  · intro unprobed
    have none : aliveResults i s.past = [] := by
      have balance := reached.sent_eq ⟨.alive, i⟩
      have count := length_aliveResults i s.past
      exact List.length_eq_zero_iff.mp (by omega)
    have summary := reached.summarizes found
    rw [none] at summary
    constructor
    · have notAlive : ¬ w.alive = true := fun alive => by simpa using summary.alive_iff.mp alive
      simpa using notAlive
    · have noDeadline : ¬ w.retryAt.isSome = true := fun deadline => by
        simpa [failuresSince] using (summary.deadline_iff.mp deadline).2
      simpa using noDeadline
  · rintro ⟨dead, noDeadline⟩
    exact reached.neverProbed found dead idle noDeadline

/-- No idle worker of a run is stranded.  It is probed exactly from its due time on, so once it is
due it stays due.  If it is over the failure ceiling and not marked, being judged marks it, and it is
due when the cooldown has passed since then.  With a cooldown set, a worker that is judged at some
time is probed at that time or, at the latest, by the first judgement behind some later time. -/
theorem Reachable.probed_iff_due (reached : Reachable settings size s)
    (found : s.monitor.fleet[i]? = some w) (idle : w.probeInFlight = false)
    (lasting : settings.health.exclusionCooldown ≠ some 0) :
    (∀ now, (Health.judge settings.health i now w).verdict = .probe ↔
      ∃ time, w.dueTime? settings.health (0 < sentIn s.past ⟨.alive, i⟩) = some time ∧
        time ≤ now) ∧
    (∀ cooldown, settings.health.exclusionCooldown = some cooldown → w.alive = false →
      settings.health.maxFailures < w.failures → w.excludedSince = none → ∀ now,
        let marked := (Health.judge settings.health i now w).worker
        (Health.judge settings.health i now w).verdict = .excluded ∧
          marked = { w with excludedSince := some now } ∧
          ∀ later, (Health.judge settings.health i later marked).verdict = .probe ↔
            now + cooldown ≤ later) ∧
    (∀ now later, now ≤ later → (Health.judge settings.health i now w).verdict = .probe →
      (Health.judge settings.health i later w).verdict = .probe) ∧
    (∀ cooldown, settings.health.exclusionCooldown = some cooldown → ∀ now, ∃ limit,
      ∀ later, limit ≤ later → ∀ between,
        .probe ∈ Health.verdicts settings.health i w (now :: (between ++ [later]))) := by
  have consistent := reached.consistent found
  have neverProbed := reached.neverProbed_iff found idle
  have probed_iff : decide (0 < sentIn s.past ⟨.alive, i⟩) = false ↔
      w.alive = false ∧ w.retryAt = none := by
    rw [← neverProbed]
    simp
  have due (now : Nat) := (Health.judge_judged settings.health i now w).probe_iff_due idle consistent
    lasting probed_iff
  refine ⟨due, ?_, ?_, ?_⟩
  · intro cooldown allowed dead beyond unmarked now
    obtain ⟨excluded, marked⟩ := (Health.judge_judged settings.health i now w).eq_marked idle dead
      beyond unmarked
    refine ⟨excluded, marked, ?_⟩
    intro later
    have wasProbed := Health.probed_of_over consistent idle probed_iff dead beyond
    have consistentMarked := Health.consistent_marked consistent idle dead beyond unmarked now
    have dueMarked := (Health.judge_judged settings.health i later
      { w with excludedSince := some now }).probe_iff_due idle consistentMarked lasting probed_iff
    rw [marked, dueMarked, Health.dueTime?_marked dead beyond wasProbed now, allowed]
    simp
  · intro now later ordered probe
    obtain ⟨time, isDue, reachedTime⟩ := (due now).mp probe
    exact (due later).mpr ⟨time, isDue, Nat.le_trans reachedTime ordered⟩
  · intro cooldown allowed now
    rcases Health.dueTime?_or_unmarked probed_iff allowed with ⟨time, isDue⟩ | ⟨dead, beyond, unmarked⟩
    · refine ⟨time, fun later reachedTime between => ?_⟩
      exact Health.probe_mem_verdicts idle consistent lasting probed_iff isDue reachedTime
        (now :: between)
    · -- The first judgement marks the worker, and sets the time by which it is probed.
      refine ⟨now + cooldown, fun later reachedTime between => ?_⟩
      obtain ⟨-, marked⟩ := (Health.judge_judged settings.health i now w).eq_marked idle dead
        beyond unmarked
      have wasProbed := Health.probed_of_over consistent idle probed_iff dead beyond
      have consistentMarked := Health.consistent_marked consistent idle dead beyond unmarked now
      have isDue := Health.dueTime?_marked dead beyond wasProbed now
      rw [allowed, Option.map_some] at isDue
      simp only [Health.verdicts, marked]
      exact List.mem_cons_of_mem _ (Health.probe_mem_verdicts
        (w := { w with excludedSince := some now }) idle consistentMarked lasting probed_iff isDue
        reachedTime between)

/-- A worker that has failed twice where no failure is tolerated has its retry time, but is over the
ceiling: it is marked at 13000, and probed from 313000 on. -/
theorem probed_iff_due_unmarked :
    ∃ s : Watch Random.Keystream,
      Reachable { configPath := "net", health := { maxFailures := 0 } } 1 s ∧
        ∃ w, s.monitor.fleet[0]? = some w ∧ w.retryAt = some 22100 ∧ w.excludedSince = none ∧
          (Health.judge { maxFailures := 0 } 0 13000 w).verdict = .excluded ∧
          ∀ later, (Health.judge { maxFailures := 0 } 0 later
              (Health.judge { maxFailures := 0 } 0 13000 w).worker).verdict = .probe ↔
            13000 + 300000 ≤ later := by
  have reached : Reachable { configPath := "net", health := { maxFailures := 0 } } 1 _ :=
    (Reachable.start (Random.Keystream.ofSeed 7)).run (show run? _ _ [.tick 1000,
      .answer ⟨.alive, 0⟩ (.error (.timeout 5000)), .deliver 1100, .tick 12000,
      .answer ⟨.alive, 0⟩ (.error (.timeout 5000)), .deliver 12100] = some _ from rfl)
  obtain ⟨-, marking, -, -⟩ := Reachable.probed_iff_due (i := 0) reached rfl rfl (by decide)
  obtain ⟨excluded, -, due⟩ := marking 300000 rfl rfl (by decide) rfl 13000
  exact ⟨_, reached, _, rfl, rfl, rfl, excluded, due⟩

end Watch

end LiteserverFleet
