import LiteserverFleet.Proofs.Monitor.Spacing
import LiteserverFleet.Proofs.Routing

/-!
# Excluded workers

Without a cooldown, a worker that is dead and idle over the failure ceiling is out for good: no event
leads back, for the probe that could succeed is never sent.  As the count of failures runs one behind the
failures until then, a run sends two probes more than the ceiling to a worker that does not succeed
(`permanent_exclusion`).
-/

set_option autoImplicit false

namespace LiteserverFleet

/-- A dead worker over the failure ceiling that waits for no probe. -/
structure Worker.Out (settings : HealthSettings) (w : Worker) : Prop where
  dead : w.alive = false
  idle : w.probeInFlight = false
  beyond : settings.maxFailures < w.failures

namespace Monitor

variable {σ : Type} [WordSource σ] {settings : Settings}

theorem selected_alive {m : Monitor σ} {selection : Selection} {chosen : List Nat} {i : Nat}
    (selected : (m.step settings (.select selection)).reply = some (.selected chosen))
    (member : i ∈ chosen) : ∃ w, m.fleet[i]? = some w ∧ w.alive = true := by
  simp only [step, onSelect] at selected
  split at selected
  · next workers source served =>
    cases selected
    obtain ⟨w, found, alive, -⟩ := (Routing.picked_of_select? served).routed.candidates i member
    exact ⟨w, found, alive⟩
  · cases selected

theorem not_selected_of_dead {m : Monitor σ} {i : Nat} {w : Worker} (found : m.fleet[i]? = some w)
    (dead : w.alive = false) (selection : Selection) (chosen : List Nat)
    (selected : (m.step settings (.select selection)).reply = some (.selected chosen)) :
    i ∉ chosen := by
  intro member
  obtain ⟨other, foundOther, alive⟩ := selected_alive selected member
  cases Option.some.inj (found.symm.trans foundOther)
  simp [dead] at alive

/-- A dead worker is asked for nothing by a tick that does not probe it. -/
theorem kindsSent_tick_of_dead {deadline i now : Nat} {w : Worker} (dead : w.alive = false)
    (noProbe : (Health.judge settings.health i now w).verdict ≠ .probe) :
    kindsSent settings deadline i w (.tick now) = [] := by
  have stillDead : (Health.judge settings.health i now w).worker.alive = false :=
    (Health.judge_judged settings.health i now w).frame.1.trans dead
  simp [kindsSent, noProbe, Archival.isDue, stillDead]

end Monitor

namespace Health

variable {settings : HealthSettings} {now : Nat} {w next : Worker} {verdict : Verdict}

theorem Judged.out (judged : Judged settings now w verdict next)
    (permanent : settings.exclusionCooldown = none) (out : w.Out settings) :
    verdict = .excluded ∧ next.Out settings := by
  have beyond := out.beyond
  cases judged with
  | marked => exact ⟨rfl, out.dead, out.idle, out.beyond⟩
  | coolingDown => exact ⟨rfl, out⟩
  | inFlight waiting => simp [out.idle] at waiting
  | alive _ alive => simp [out.dead] at alive
  | recovery _ _ _ _ allowed _ => simp [permanent] at allowed
  | retry _ _ within _ _ => omega
  | early _ _ within _ _ => omega
  | first _ _ _ noFailure => omega
  | stranded _ _ within _ _ => omega

end Health

namespace Monitor

variable {settings : Settings} {deadline i : Nat} {w : Worker} {event : Event}

/-- No event leads back from being out, as no alive-probe is there that could succeed. -/
theorem workerAfter_out (permanent : settings.health.exclusionCooldown = none)
    (out : w.Out settings.health)
    (awaits : event.completed? = some ⟨.alive, i⟩ → w.awaits .alive = true) :
    (workerAfter settings deadline i w event).Out settings.health ∧
      kindsSent settings deadline i w event = [] := by
  cases event with
  | tick now =>
      obtain ⟨excluded, stillOut⟩ :=
        (Health.judge_judged settings.health i now w).out permanent out
      refine ⟨?_, kindsSent_tick_of_dead out.dead (by simp [excluded])⟩
      simp only [workerAfter, tickWorker_eq]
      exact ⟨stillOut.dead, stillOut.idle, stillOut.beyond⟩
  | aliveCompleted worker now result =>
      by_cases same : worker = i
      · have waiting : w.probeInFlight = true := awaits (by rw [← same]; rfl)
        simp [out.idle] at waiting
      · rw [workerAfter, if_neg same]
        exact ⟨out, rfl⟩
  | archivalCompleted worker succeeded =>
      simp only [workerAfter]
      split
      · exact ⟨⟨out.dead, out.idle, out.beyond⟩, rfl⟩
      · exact ⟨out, rfl⟩
  | select selection => exact ⟨out, rfl⟩
  | snapshot => exact ⟨out, rfl⟩

end Monitor

namespace Watch

open Health (ProbeResult)

theorem sent_none_of_filter {sent : List Probe} {i : Nat}
    (toWorker : sent.filter (fun probe => probe.worker = i) = []) (kind : ProbeKind) :
    ⟨kind, i⟩ ∉ sent := by
  intro member
  have kept : (⟨kind, i⟩ : Probe) ∈ sent.filter (fun probe => probe.worker = i) := by
    simpa using member
  simp [toWorker] at kept

section Budget

variable {settings : HealthSettings} {results : List ProbeResult} {w next : Worker} {now : Nat}

/-- Without a cooldown, a worker is probed only if it has not failed more often than the ceiling and
once. -/
theorem failuresSince_of_probe (judged : Health.Judged settings now w .probe next)
    (permanent : settings.exclusionCooldown = none) (summary : Summarizes settings results w) :
    failuresSince results ≤ settings.maxFailures + 1 := by
  have count := summary.failures_eq
  have deadline := summary.deadline_iff
  cases judged with
  | alive idle alive =>
      rw [failuresSince_of_alive summary alive]
      exact Nat.zero_le _
  | recovery _ _ _ _ allowed _ => simp [permanent] at allowed
  | retry idle dead within due reached =>
      simp only [idle, Bool.false_eq_true, if_false] at count
      omega
  | first idle dead noDeadline noFailure =>
      simp only [idle, noDeadline, Option.isSome_none, Bool.false_eq_true, true_and,
        false_iff] at deadline
      omega

end Budget

variable {σ : Type} [WordSource σ] {settings : Settings} {size i : Nat} {s : Watch σ} {w : Worker}

/-- The probes since the last success, the one in flight included, stay two more than the ceiling at
most: a tick sends one only where there is room. -/
theorem failuresSince_event {deadline : Nat} {event : Monitor.Event} {sent : List Probe}
    {past : List Moment} (permanent : settings.health.exclusionCooldown = none)
    (summary : Summarizes settings.health (aliveResults i past) w)
    (bounded : failuresSince (aliveResults i past) + w.probeInFlight.toNat ≤
      settings.health.maxFailures + 2)
    (awaits : event.completed? = some ⟨.alive, i⟩ → w.awaits .alive = true) :
    failuresSince (aliveResults i (⟨event, sent⟩ :: past)) +
        (Monitor.workerAfter settings deadline i w event).probeInFlight.toNat ≤
      settings.health.maxFailures + 2 := by
  cases event with
  | tick now =>
      show failuresSince (aliveResults i past) + _ ≤ _
      by_cases probe : (Health.judge settings.health i now w).verdict = .probe
      · have judged := Health.judge_judged settings.health i now w
        rw [probe] at judged
        have few := failuresSince_of_probe judged permanent summary
        have atMostOne :=
          Bool.toNat_le (Monitor.workerAfter settings deadline i w (.tick now)).probeInFlight
        omega
      · have noneSent : .alive ∉ Monitor.kindsSent settings deadline i w (.tick now) := by
          intro sent
          exact probe (alive_mem_kindsSent_tick.mp sent)
        have flag := Monitor.saw_awaits settings deadline i w .alive
          (show (Monitor.Event.tick now).completed? = none from rfl)
        rw [List.count_eq_zero_of_not_mem noneSent] at flag
        exact Nat.le_trans (Nat.add_le_add_left (Nat.le_of_eq flag) _) bounded
  | aliveCompleted worker now result =>
      by_cases same : worker = i
      · subst same
        have waiting : w.probeInFlight = true := awaits rfl
        rw [waiting] at bounded
        rw [aliveResults_own, Monitor.workerAfter, if_pos rfl]
        cases result with
        | ok seqno => exact Nat.zero_le _
        | error failure => exact bounded
      · rw [aliveResults_other same, Monitor.workerAfter, if_neg same]
        exact bounded
  | archivalCompleted worker succeeded =>
      show failuresSince (aliveResults i past) + _ ≤ _
      simp only [Monitor.workerAfter]
      split
      · exact bounded
      · exact bounded
  | select selection => exact bounded
  | snapshot => exact bounded

theorem Reachable.failuresSince_le (reached : Reachable settings size s)
    (permanent : settings.health.exclusionCooldown = none)
    (found : s.monitor.fleet[i]? = some w) :
    failuresSince (aliveResults i s.past) + w.probeInFlight.toNat ≤
      settings.health.maxFailures + 2 := by
  have both := reached.record_induction (P := fun i w past =>
    Summarizes settings.health (aliveResults i past) w ∧
      failuresSince (aliveResults i past) + w.probeInFlight.toNat ≤ settings.health.maxFailures + 2)
    ?_ ?_ found
  · exact both.2
  · intro i
    exact ⟨summarizes_fresh settings.health, Nat.zero_le _⟩
  · rintro deadline i w event sent past ⟨summary, bounded⟩ awaits _
    exact ⟨summarizes_event summary (awaits .alive),
      failuresSince_event permanent summary bounded (awaits .alive)⟩

/-- Wherever the past is cut, a reachable watch stood there. -/
theorem Reachable.stood (reached : Reachable settings size s) {later earlier : List Moment}
    (cut : s.past = later ++ earlier) :
    ∃ before : Watch σ, Reachable settings size before ∧ before.past = earlier := by
  cases List.eq_nil_or_concat' later with
  | inl nothing =>
      rw [nothing, List.nil_append] at cut
      exact ⟨s, reached, cut⟩
  | inr more =>
      obtain ⟨last, moment, rfl⟩ := more
      rw [List.append_assoc, List.singleton_append] at cut
      obtain ⟨before, reachedBefore, past, -⟩ := reached.moment cut
      exact ⟨before, reachedBefore, past⟩

theorem failuresSince_append {latest : List ProbeResult}
    (failed : ∀ result ∈ latest, result.isOk = false) (results : List ProbeResult) :
    failuresSince (latest ++ results) = latest.length + failuresSince results := by
  have all : ∀ result ∈ latest, (!result.isOk) = true := by
    intro result member
    rw [failed result member]
    rfl
  rw [failuresSince, List.takeWhile_append_of_pos all, List.length_append, failuresSince]

/-- In a stretch of the past without a success, without a cooldown. -/
theorem Reachable.failed_le (reached : Reachable settings size s)
    (permanent : settings.health.exclusionCooldown = none) (there : i < size)
    {later between earlier : List Moment} (cut : s.past = later ++ (between ++ earlier))
    (failed : ∀ result ∈ aliveResults i between, result.isOk = false) :
    (aliveResults i between).length ≤ settings.health.maxFailures + 2 ∧
      sentIn between ⟨.alive, i⟩ ≤ settings.health.maxFailures + 2 := by
  obtain ⟨last, reachedLast, pastLast⟩ := reached.stood cut
  obtain ⟨first, reachedFirst, pastFirst⟩ := reachedLast.stood pastLast
  have present : i < last.monitor.fleet.length := by rw [reachedLast.fleet_length]; exact there
  obtain ⟨w, found⟩ : ∃ w, last.monitor.fleet[i]? = some w := ⟨_, List.getElem?_eq_getElem present⟩
  have bounded := reachedLast.failuresSince_le permanent found
  have results : aliveResults i last.past = aliveResults i between ++ aliveResults i earlier := by
    rw [pastLast, aliveResults, List.filterMap_append]
    rfl
  rw [results, failuresSince_append failed] at bounded
  refine ⟨by omega, ?_⟩
  -- What was sent in the stretch was applied in it or is in flight at its end.
  have inFlight := reachedLast.outstanding_eq ⟨.alive, i⟩
  rw [flagged_eq found, Worker.awaits] at inFlight
  have balance := reachedLast.sent_eq ⟨.alive, i⟩
  have balanceFirst := reachedFirst.sent_eq ⟨.alive, i⟩
  have counted := length_aliveResults i between
  rw [pastLast] at balance
  rw [pastFirst] at balanceFirst
  simp only [sentIn, appliedIn, List.flatMap_append, List.count_append, List.countP_append]
    at balance balanceFirst counted ⊢
  omega

/-- No run leads back from being out, or sends a probe to a worker that is. -/
theorem Reachable.stays_out (reached : Reachable settings size s)
    (permanent : settings.health.exclusionCooldown = none)
    (found : s.monitor.fleet[i]? = some w) (out : w.Out settings.health) {actions : List Action}
    {last : Watch σ} (went : s.run? settings actions = some last) :
    ∃ w since, last.monitor.fleet[i]? = some w ∧ last.past = since ++ s.past ∧
      w.Out settings.health ∧ ∀ moment ∈ since, ∀ kind, ⟨kind, i⟩ ∉ moment.sent := by
  refine reached.run_induction
    (P := fun w since => w.Out settings.health ∧ ∀ moment ∈ since, ∀ kind, ⟨kind, i⟩ ∉ moment.sent)
    ⟨out, nofun⟩ ?_ found went
  rintro deadline w event sent since ⟨out, quiet⟩ awaits toWorker
  obtain ⟨stillOut, nothing⟩ := Monitor.workerAfter_out permanent out (awaits .alive)
  rw [nothing, List.map_nil] at toWorker
  exact ⟨stillOut, List.forall_mem_cons.mpr ⟨sent_none_of_filter toWorker, quiet⟩⟩

/-- Without a cooldown, a worker that is dead and idle over the failure ceiling stays dead in every
run from there; it is sent no probe of either kind and is never selected.  In a stretch of the past
without a success of a worker, the probes of it that failed and the probes it was sent are two more
than the ceiling at most. -/
theorem Reachable.permanent_exclusion (reached : Reachable settings size s)
    (permanent : settings.health.exclusionCooldown = none)
    (found : s.monitor.fleet[i]? = some w) :
    (w.alive = false → w.probeInFlight = false → settings.health.maxFailures < w.failures →
      ∀ actions last, s.run? settings actions = some last →
        ∃ later since, last.monitor.fleet[i]? = some later ∧ later.alive = false ∧
          last.past = since ++ s.past ∧ (∀ moment ∈ since, ∀ kind, ⟨kind, i⟩ ∉ moment.sent) ∧
          ∀ selection chosen,
            (last.monitor.step settings (.select selection)).reply = some (.selected chosen) →
              i ∉ chosen) ∧
    ∀ later between earlier, s.past = later ++ (between ++ earlier) →
      (∀ result ∈ aliveResults i between, result.isOk = false) →
        (aliveResults i between).length ≤ settings.health.maxFailures + 2 ∧
          sentIn between ⟨.alive, i⟩ ≤ settings.health.maxFailures + 2 := by
  constructor
  · intro dead idle beyond actions last went
    obtain ⟨later, since, foundLater, past, out, quiet⟩ :=
      reached.stays_out permanent found ⟨dead, idle, beyond⟩ went
    refine ⟨later, since, foundLater, out.dead, past, quiet, ?_⟩
    intro selection chosen selected
    exact Monitor.not_selected_of_dead foundLater out.dead selection chosen selected
  · intro later between earlier cut failed
    have there : i < size := by
      rw [← reached.fleet_length]
      exact (List.getElem?_eq_some_iff.mp found).1
    exact reached.failed_le permanent there cut failed

/-- Where no failure is tolerated, a worker is out when its second probe has failed: two probes were
sent, and no third one follows an hour later. -/
theorem permanent_exclusion_two_failures :
    let settings : Settings :=
      { configPath := "net", health := { maxFailures := 0, exclusionCooldown := none } }
    ∃ (s last : Watch Random.Keystream) (since : List Moment), Reachable settings 1 s ∧
      sentIn s.past ⟨.alive, 0⟩ ≤ 2 ∧
      s.run? settings [.tick 12000, .tick 3600000] = some last ∧ last.past = since ++ s.past ∧
      ∀ moment ∈ since, ∀ kind, ⟨kind, 0⟩ ∉ moment.sent := by
  intro settings
  have reached : Reachable settings 1 _ :=
    (Reachable.start (Random.Keystream.ofSeed 7)).run (show run? _ _ [.tick 1000,
      .answer ⟨.alive, 0⟩ (.error (.client "down")), .deliver 1000, .tick 11000,
      .answer ⟨.alive, 0⟩ (.error (.client "down")), .deliver 11000] = some _ from rfl)
  obtain ⟨forever, budget⟩ := Reachable.permanent_exclusion (i := 0) reached rfl rfl
  obtain ⟨-, since, -, -, past, quiet, -⟩ := forever rfl rfl (by decide)
    [.tick 12000, .tick 3600000] _ rfl
  exact ⟨_, _, since, reached, (budget [] _ [] (List.append_nil _).symm (by decide)).2, rfl, past,
    quiet⟩

end Watch

end LiteserverFleet
