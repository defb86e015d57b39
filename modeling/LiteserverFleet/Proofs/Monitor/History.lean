import LiteserverFleet.Proofs.Monitor.Record

/-!
# The record as a summary of the past

The completed probes of a worker, latest first, determine its record: `Summarizes` says how.  The
number of failures is counted when a retry is sent and not when a probe fails, so while no probe
is in flight it is one behind the failures since the last success; it stops at one more than the
ceiling, and recovery probes leave it alone.
-/

set_option autoImplicit false

namespace LiteserverFleet

namespace Monitor

def Event.aliveResult? (i : Nat) : Event → Option Health.ProbeResult
  | .aliveCompleted worker _ result => if worker = i then some result else none
  | _ => none

def Event.archivalResult? (i : Nat) : Event → Option Bool
  | .archivalCompleted worker succeeded => if worker = i then some succeeded else none
  | _ => none

theorem archival_mem_kindsSent {settings : Settings} {deadline i : Nat} {w : Worker} {event : Event}
    (sent : .archival ∈ kindsSent settings deadline i w event) :
    (∃ now, event = .tick now) ∧ w.alive = true := by
  cases event with
  | tick now =>
      have judged := Health.judge_judged settings.health i now w
      have due : Archival.isDue (Health.judge settings.health i now w).worker = true := by
        simp only [kindsSent, List.mem_append] at sent
        rcases sent with alive | archival
        · split at alive <;> simp at alive
        · split at archival
          · next due => exact due.2
          · cases archival
      have alive : (Health.judge settings.health i now w).worker.alive = true := by
        simp only [Archival.isDue, Bool.and_eq_true] at due
        exact due.1
      exact ⟨⟨now, rfl⟩, judged.frame.1 ▸ alive⟩
  | aliveCompleted worker now result => cases sent
  | archivalCompleted worker succeeded => cases sent
  | select selection => cases sent
  | snapshot => cases sent

theorem step_sends_lookup {σ : Type} [WordSource σ] {settings : Settings} {m : Monitor σ}
    {event : Event} {i : Nat} (sent : ⟨.archival, i⟩ ∈ (m.step settings event).sent) :
    (∃ now, event = .tick now) ∧ ∃ w, m.fleet[i]? = some w ∧ w.alive = true := by
  have toWorker := step_sent_filter settings m event i
  have kept : ⟨.archival, i⟩ ∈
      (m.step settings event).sent.filter fun probe => probe.worker = i := by
    simpa using sent
  rw [toWorker] at kept
  cases found : m.fleet[i]? with
  | none => simp [found] at kept
  | some w =>
      have asked : .archival ∈ kindsSent settings m.archivalDeadline i w event := by
        simpa [found] using kept
      obtain ⟨onTick, alive⟩ := archival_mem_kindsSent asked
      exact ⟨onTick, w, rfl, alive⟩

end Monitor

namespace Watch

open Health (ProbeResult)

/-- The results of the alive-probes of a worker that were applied, latest first. -/
def aliveResults (i : Nat) (past : List Moment) : List ProbeResult :=
  past.filterMap fun moment => moment.event.aliveResult? i

def archivalResults (i : Nat) (past : List Moment) : List Bool :=
  past.filterMap fun moment => moment.event.archivalResult? i

/-- How many alive-probes have failed since the last one that succeeded. -/
def failuresSince (results : List ProbeResult) : Nat :=
  (results.takeWhile fun result => !result.isOk).length

/-- What the completed alive-probes tell of a worker. -/
structure Summarizes (settings : HealthSettings) (results : List ProbeResult) (w : Worker) : Prop where
  alive_iff : w.alive = true ↔ ∃ seqno, results.head? = some (.ok seqno)
  headSeqno_eq : w.headSeqno = results.findSome? Except.toOption
  failures_eq : w.failures =
    if w.probeInFlight then min (failuresSince results) (settings.maxFailures + 1)
    else min (failuresSince results - 1) (settings.maxFailures + 1)
  deadline_iff : w.retryAt.isSome = true ↔ w.probeInFlight = false ∧ 0 < failuresSince results

section Summary

variable {settings : HealthSettings} {results : List ProbeResult} {w next : Worker} {now : Nat}
  {verdict : Verdict}

theorem failuresSince_of_alive (summary : Summarizes settings results w) (alive : w.alive = true) :
    failuresSince results = 0 := by
  obtain ⟨seqno, first⟩ := summary.alive_iff.mp alive
  obtain ⟨rest, rfl⟩ := List.head?_eq_some_iff.mp first
  rfl

theorem summarizes_fresh (settings : HealthSettings) : Summarizes settings [] {} where
  alive_iff := by simp
  headSeqno_eq := rfl
  failures_eq := by simp [failuresSince]
  deadline_iff := by simp [failuresSince]

/-- A judgement counts a failure exactly when it sends a retry. -/
theorem judged_summarizes (judged : Health.Judged settings now w verdict next)
    (before : Summarizes settings results w) : Summarizes settings results next := by
  have count := before.failures_eq
  have deadline := before.deadline_iff
  cases judged with
  | inFlight waiting => exact before
  | coolingDown idle dead beyond mark early => exact before
  | early idle dead within due notYet => exact before
  | stranded idle dead within noDeadline failed => exact before
  | marked idle dead beyond unmarked => exact ⟨before.1, before.2, before.3, before.4⟩
  | alive idle alive =>
      have none := failuresSince_of_alive before alive
      simp only [idle, none, Bool.false_eq_true, if_false, true_and, Nat.lt_irrefl] at count deadline
      refine ⟨before.1, before.2, ?_, ?_⟩
      · simpa [none] using count
      · simpa [none] using deadline
  | recovery idle dead beyond mark allowed late =>
      -- Over the ceiling the count has stopped, so being one behind makes no difference.
      simp only [idle, Bool.false_eq_true, if_false] at count
      refine ⟨before.1, before.2, ?_, ?_⟩
      · show w.failures = min (failuresSince results) (settings.maxFailures + 1)
        omega
      · simp
  | retry idle dead within due reached =>
      -- The failure that set the retry time is counted now.
      simp only [idle, due, Option.isSome_some, true_and, true_iff, Bool.false_eq_true,
        if_false] at count deadline
      refine ⟨before.1, before.2, ?_, ?_⟩
      · show w.failures + 1 = min (failuresSince results) (settings.maxFailures + 1)
        omega
      · simp
  | first idle dead noDeadline noFailure =>
      simp only [idle, noDeadline, Option.isSome_none, Bool.false_eq_true, true_and,
        false_iff] at deadline
      refine ⟨before.1, before.2, ?_, ?_⟩
      · show w.failures = min (failuresSince results) (settings.maxFailures + 1)
        omega
      · simp [noDeadline]

/-- A completed alive-probe was in flight, hence its failure has been counted already if it was a
retry. -/
theorem afterProbe_summarizes (before : Summarizes settings results w)
    (waiting : w.probeInFlight = true) (result : ProbeResult) :
    Summarizes settings (result :: results) (Health.afterProbe settings now result w) := by
  have count := before.failures_eq
  simp only [waiting, if_true] at count
  cases result with
  | ok seqno =>
      exact {
        alive_iff := by simp [Health.afterProbe]
        headSeqno_eq := rfl
        failures_eq := by simp [Health.afterProbe, failuresSince, Except.isOk, Except.toBool]
        deadline_iff := by simp [Health.afterProbe, failuresSince, Except.isOk, Except.toBool] }
  | error failure =>
      have counted : failuresSince (.error failure :: results) = failuresSince results + 1 := rfl
      exact {
        alive_iff := by simp [Health.afterProbe]
        headSeqno_eq := before.headSeqno_eq
        failures_eq := by simpa [Health.afterProbe, counted] using count
        deadline_iff := by simp [Health.afterProbe, counted] }

theorem summarizes_archival (archival waiting : Bool) (before : Summarizes settings results w) :
    Summarizes settings results (w.withArchival archival waiting) :=
  ⟨before.alive_iff, before.headSeqno_eq, before.failures_eq, before.deadline_iff⟩

end Summary

variable {σ : Type} [WordSource σ] {settings : Settings} {size i : Nat} {s : Watch σ} {w : Worker}

section Results

variable {now worker : Nat} {result : ProbeResult} {sent : List Probe} {past : List Moment}

theorem aliveResults_own : aliveResults i (⟨.aliveCompleted i now result, sent⟩ :: past) =
    result :: aliveResults i past := by
  simp [aliveResults, Monitor.Event.aliveResult?]

theorem aliveResults_other (other : worker ≠ i) :
    aliveResults i (⟨.aliveCompleted worker now result, sent⟩ :: past) = aliveResults i past := by
  simp [aliveResults, Monitor.Event.aliveResult?, other]

/-- An event that completes an alive-probe finds it in flight; then the record stays a summary. -/
theorem summarizes_event {deadline : Nat} {event : Monitor.Event}
    (before : Summarizes settings.health (aliveResults i past) w)
    (awaits : event.completed? = some ⟨.alive, i⟩ → w.awaits .alive = true) :
    Summarizes settings.health (aliveResults i (⟨event, sent⟩ :: past))
      (Monitor.workerAfter settings deadline i w event) := by
  cases event with
  | tick now =>
      have judged := judged_summarizes (Health.judge_judged settings.health i now w) before
      simp only [Monitor.workerAfter, Monitor.tickWorker_eq]
      exact summarizes_archival _ _ judged
  | aliveCompleted worker now result =>
      by_cases same : worker = i
      · subst same
        have waiting : w.probeInFlight = true := awaits rfl
        rw [aliveResults_own, Monitor.workerAfter, if_pos rfl]
        exact afterProbe_summarizes before waiting result
      · rw [aliveResults_other same, Monitor.workerAfter, if_neg same]
        exact before
  | archivalCompleted worker succeeded =>
      simp only [Monitor.workerAfter]
      split
      · exact summarizes_archival succeeded false before
      · exact before
  | select selection => exact before
  | snapshot => exact before

end Results

theorem Reachable.summarizes (reached : Reachable settings size s)
    (found : s.monitor.fleet[i]? = some w) :
    Summarizes settings.health (aliveResults i s.past) w := by
  refine reached.record_induction
    (P := fun i w past => Summarizes settings.health (aliveResults i past) w)
    (fun _ => summarizes_fresh settings.health) ?_ found
  intro deadline i w event sent past before awaits _
  exact summarizes_event before (awaits .alive)

theorem Reachable.archival_eq (reached : Reachable settings size s)
    (found : s.monitor.fleet[i]? = some w) :
    w.archival = (archivalResults i s.past).head?.getD false := by
  refine reached.record_induction
    (P := fun i w past => w.archival = (archivalResults i past).head?.getD false)
    (fun _ => rfl) ?_ found
  intro deadline i w event sent past before _ _
  cases event with
  | tick now =>
      have judged := Health.judge_judged settings.health i now w
      simp only [Monitor.workerAfter, Monitor.tickWorker_eq]
      exact judged.frame.2.2.1.trans before
  | aliveCompleted worker now result =>
      simp only [Monitor.workerAfter]
      split
      · cases result <;> exact before
      · exact before
  | archivalCompleted worker succeeded =>
      by_cases same : worker = i
      · simp [Monitor.workerAfter, Archival.afterProbe, archivalResults,
          Monitor.Event.archivalResult?, same]
      · simpa [Monitor.workerAfter, archivalResults, Monitor.Event.archivalResult?, same]
          using before
  | select selection => exact before
  | snapshot => exact before

theorem Reachable.lookup_sent (reached : Reachable settings size s)
    {later earlier : List Moment} {moment : Moment}
    (cut : s.past = later ++ moment :: earlier) (sent : ⟨.archival, i⟩ ∈ moment.sent) :
    (∃ now, moment.event = .tick now) ∧
      ∃ seqno, (aliveResults i earlier).head? = some (.ok seqno) := by
  obtain ⟨before, reachedBefore, rfl, asked⟩ := reached.moment cut
  rw [asked] at sent
  obtain ⟨onTick, w, found, alive⟩ := Monitor.step_sends_lookup sent
  exact ⟨onTick, (reachedBefore.summarizes found).alive_iff.mp alive⟩

theorem findSome?_toOption_eq_none {results : List ProbeResult} :
    results.findSome? Except.toOption = none ↔ ∀ result ∈ results, result.isOk = false := by
  rw [List.findSome?_eq_none_iff]
  constructor
  · intro all result member
    have failed := all result member
    cases result with
    | ok seqno => cases failed
    | error failure => rfl
  · intro all result member
    have failed := all result member
    cases result with
    | ok seqno => cases failed
    | error failure => rfl

/-- The record of a worker is a summary of its probes.  It is alive if its last alive-probe
succeeded; the head is that of the last success; the failures since then are counted with a delay
of one while no probe is in flight, up to one over the ceiling; and it is archival if its last
lookup succeeded.  Lookups were sent to it on ticks at which it was alive only. -/
theorem Reachable.record_summary (reached : Reachable settings size s)
    (found : s.monitor.fleet[i]? = some w) :
    (w.alive = true ↔ ∃ seqno, (aliveResults i s.past).head? = some (.ok seqno)) ∧
      w.headSeqno = (aliveResults i s.past).findSome? Except.toOption ∧
      (w.headSeqno = none ↔ ∀ result ∈ aliveResults i s.past, result.isOk = false) ∧
      w.failures = (if w.probeInFlight
        then min (failuresSince (aliveResults i s.past)) (settings.health.maxFailures + 1)
        else min (failuresSince (aliveResults i s.past) - 1) (settings.health.maxFailures + 1)) ∧
      w.archival = (archivalResults i s.past).head?.getD false ∧
      ∀ later moment earlier, s.past = later ++ moment :: earlier →
        ⟨.archival, i⟩ ∈ moment.sent →
          (∃ now, moment.event = .tick now) ∧
            ∃ seqno, (aliveResults i earlier).head? = some (.ok seqno) := by
  have summary := reached.summarizes found
  refine ⟨summary.alive_iff, summary.headSeqno_eq, ?_, summary.failures_eq,
    reached.archival_eq found, ?_⟩
  · rw [summary.headSeqno_eq]
    exact findSome?_toOption_eq_none
  · intro later moment earlier cut sent
    exact reached.lookup_sent cut sent

/-- A worker that has succeeded, then failed twice: the second failure is not counted yet. -/
theorem record_summary_two_failures :
    ∃ s : Watch Random.Keystream, Reachable { configPath := "net" } 1 s ∧
      ∃ w, s.monitor.fleet[0]? = some w ∧ failuresSince (aliveResults 0 s.past) = 2 ∧
        w.failures = 1 ∧ w.headSeqno = some 5 ∧ w.archival = true := by
  have reached : Reachable { configPath := "net" } 1 _ :=
    (Reachable.start (Random.Keystream.ofSeed 7)).run (show run? _ _ [.tick 1000,
      .answer ⟨.alive, 0⟩ (.ok 5), .deliver 1100, .tick 2000, .answer ⟨.archival, 0⟩ (.ok 3),
      .deliver 2100, .answer ⟨.alive, 0⟩ (.error (.timeout 5000)), .deliver 2200, .tick 12200,
      .answer ⟨.alive, 0⟩ (.error (.timeout 5000)), .deliver 12300] = some _ from rfl)
  obtain ⟨-, head, -, failures, archival, -⟩ := Reachable.record_summary (i := 0) reached rfl
  exact ⟨_, reached, _, rfl, rfl, failures, head, archival⟩

end Watch

end LiteserverFleet
