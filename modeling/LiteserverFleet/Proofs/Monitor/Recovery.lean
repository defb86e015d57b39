import LiteserverFleet.Proofs.Monitor.Exclusion
import Mathlib.Data.List.Chain

/-!
# Recovery probes

Once a worker is marked, all that it is sent are recovery probes, the first one a cooldown behind the
mark and each other one a cooldown behind the one before it, however late the answers come.  Only a
success changes the rest of its record, and that one clears it (`marked_until_success`).
-/

set_option autoImplicit false

namespace LiteserverFleet

/-- Of times that are given latest first, each is an interval or more behind the one before it. -/
def Apart (interval : Nat) (times : List Nat) : Prop :=
  times.IsChain fun later earlier => earlier + interval ≤ later

theorem Apart.le_of_reverse {interval first : Nat} {times : List Nat}
    (apart : Apart interval (times ++ [first])) {m time : Nat}
    (found : times.reverse[m]? = some time) : first + (m + 1) * interval ≤ time := by
  induction times generalizing m time with
  | nil => simp at found
  | cons latest rest ih =>
      obtain ⟨next, apartRest⟩ := List.isChain_cons.mp apart
      rw [List.reverse_cons, List.getElem?_append] at found
      split at found
      · exact ih apartRest found
      · next past =>
        -- The latest time; the one before it is the last of the others, or the first time.
        rw [List.length_reverse] at past found
        have isLatest : m = rest.length ∧ latest = time := by
          have inside := (List.getElem?_eq_some_iff.mp found).1
          have atEnd : m = rest.length := by simp at inside; omega
          simpa [atEnd] using found
        obtain ⟨rfl, rfl⟩ := isLatest
        cases rest with
        | nil =>
            have := next first rfl
            simpa using this
        | cons before rest =>
            have := next before rfl
            have := ih apartRest (show (before :: rest).reverse[rest.length]? = some before by simp)
            rw [List.length_cons, Nat.succ_mul]
            omega

namespace Health

variable {settings : HealthSettings} {now : Nat} {w next : Worker} {verdict : Verdict}

theorem Judged.marked_now (judged : Judged settings now w verdict next)
    (unmarked : w.excludedSince = none) (excluded : next.isExcluded = true) :
    next.excludedSince = some now := by
  have stillUnmarked (same : next.excludedSince = w.excludedSince) :
      next.excludedSince = some now := by
    rw [Worker.isExcluded, same, unmarked] at excluded
    cases excluded
  cases judged with
  | marked => rfl
  | recovery _ _ _ mark _ _ => simp [unmarked] at mark
  | _ => exact stillUnmarked rfl

end Health

namespace Watch

/-- When a worker was sent its alive-probes, latest first. -/
def sendTimes (i : Nat) (past : List Moment) : List Nat :=
  past.filterMap fun moment => if ⟨.alive, i⟩ ∈ moment.sent then moment.event.time? else none

section Past

variable {i : Nat} {event : Monitor.Event} {sent : List Probe} {past : List Moment}

theorem sendTimes_of_sent {now : Nat} (sentNow : ⟨.alive, i⟩ ∈ sent) :
    sendTimes i (⟨.tick now, sent⟩ :: past) = now :: sendTimes i past := by
  simp [sendTimes, sentNow, Monitor.Event.time?]

theorem sendTimes_of_not_sent (noneSent : ⟨.alive, i⟩ ∉ sent) :
    sendTimes i (⟨event, sent⟩ :: past) = sendTimes i past := by
  simp [sendTimes, noneSent]

theorem mem_times_of_sent {time : Nat} (sentThen : time ∈ sendTimes i past) : time ∈ times past := by
  obtain ⟨moment, member, timed⟩ := List.mem_filterMap.mp sentThen
  split at timed
  · exact List.mem_filterMap.mpr ⟨moment, member, timed⟩
  · cases timed

theorem mem_aliveResults_cons {result : Health.ProbeResult} :
    result ∈ aliveResults i (⟨event, sent⟩ :: past) ↔
      event.aliveResult? i = some result ∨ result ∈ aliveResults i past := by
  simp [aliveResults, List.mem_filterMap]

end Past

/-- A worker that was marked at a time and has not succeeded since: its mark is as old as the last probe
it was sent, and these are a cooldown apart from the first mark and from each other. -/
structure Recovering (settings : HealthSettings) (i cooldown markedAt : Nat) (w : Worker)
    (since : List Moment) : Prop where
  consistent : w.Consistent settings
  mark : w.excludedSince = (sendTimes i since ++ [markedAt]).head?
  apart : Apart cooldown (sendTimes i since ++ [markedAt])
  counted : (sendTimes i since).length = sentIn since ⟨.alive, i⟩

section Recovering

variable {settings : Settings} {i cooldown markedAt : Nat} {w next : Worker} {since : List Moment}
  {event : Monitor.Event} {sent : List Probe}

theorem Recovering.isExcluded (recovering : Recovering settings.health i cooldown markedAt w since) :
    w.isExcluded = true := by
  rw [Worker.isExcluded, recovering.mark]
  simp

theorem Recovering.passing (recovering : Recovering settings.health i cooldown markedAt w since)
    (noneSent : ⟨.alive, i⟩ ∉ sent) (consistent : next.Consistent settings.health)
    (sameMark : next.excludedSince = w.excludedSince) :
    Recovering settings.health i cooldown markedAt next (⟨event, sent⟩ :: since) := by
  have quiet : sendTimes i (⟨event, sent⟩ :: since) = sendTimes i since :=
    sendTimes_of_not_sent noneSent
  refine ⟨consistent, ?_, ?_, ?_⟩
  · rw [quiet, sameMark]
    exact recovering.mark
  · rw [quiet]
    exact recovering.apart
  · rw [quiet, sentIn, List.flatMap_cons, List.count_append, List.count_eq_zero_of_not_mem noneSent,
      Nat.zero_add]
    exact recovering.counted

/-- A judgement sends a marked worker nothing, or a recovery probe a cooldown behind the one before. -/
theorem Recovering.judged {verdict : Verdict} {now : Nat}
    (recovering : Recovering settings.health i cooldown markedAt w since)
    (allowed : settings.health.exclusionCooldown = some cooldown)
    (earlier : ∀ time ∈ sendTimes i since ++ [markedAt], time ≤ now)
    (judged : Health.Judged settings.health now w verdict next)
    (count : sent.count ⟨.alive, i⟩ = if verdict = .probe then 1 else 0) :
    Recovering settings.health i cooldown markedAt next (⟨.tick now, sent⟩ :: since) := by
  have consistent := judged.consistent recovering.consistent
  obtain ⟨dead, failures⟩ := recovering.consistent.excluded_over recovering.isExcluded
  have noneSent (told : verdict ≠ .probe) : ⟨.alive, i⟩ ∉ sent := by
    rw [if_neg told] at count
    exact List.count_eq_zero.mp count
  cases judged with
  | inFlight waiting => exact recovering.passing (noneSent (by decide)) consistent rfl
  | coolingDown idle _ beyond mark early =>
      exact recovering.passing (noneSent (by decide)) consistent rfl
  | alive idle alive => simp [dead] at alive
  | marked idle _ beyond unmarked => simp [recovering.mark] at unmarked
  | retry idle _ within due reached => omega
  | early idle _ within due notYet => omega
  | first idle _ noDeadline noFailure => omega
  | stranded idle _ within noDeadline failed => omega
  | @recovery last limit idle _ beyond mark limited late =>
      cases Option.some.inj (allowed.symm.trans limited)
      rw [if_pos rfl] at count
      have sentNow : ⟨.alive, i⟩ ∈ sent := List.count_pos_iff.mp (by omega)
      have isLast := recovering.mark.symm.trans mark
      have passed : last ≤ now := earlier last (List.mem_of_mem_head? isLast)
      refine ⟨consistent, ?_, ?_, ?_⟩
      · rw [sendTimes_of_sent sentNow]
        rfl
      · rw [sendTimes_of_sent sentNow, List.cons_append]
        refine List.isChain_cons.mpr ⟨?_, recovering.apart⟩
        intro time isHead
        cases Option.some.inj (isLast.symm.trans isHead)
        omega
      · rw [sendTimes_of_sent sentNow, List.length_cons, recovering.counted, sentIn, sentIn,
          List.flatMap_cons, List.count_append, count, Nat.add_comm]

end Recovering

variable {σ : Type} [WordSource σ] {settings : Settings} {size i cooldown markedAt : Nat}
  {s marked last : Watch σ} {w : Worker} {actions : List Action}

theorem alive_count_kindsSent_tick {deadline now : Nat} :
    (Monitor.kindsSent settings deadline i w (.tick now)).count .alive =
      if (Health.judge settings.health i now w).verdict = .probe then 1 else 0 := by
  simp only [Monitor.kindsSent, List.count_append]
  split <;> split <;> rfl

/-- What a run makes of a worker that has just been marked, as long as no probe of it succeeds. -/
theorem Reachable.recovering (reached : Reachable settings size marked)
    (allowed : settings.health.exclusionCooldown = some cooldown)
    (found : marked.monitor.fleet[i]? = some w) (mark : w.excludedSince = some markedAt)
    (seen : markedAt ∈ times marked.past) (went : marked.run? settings actions = some last) :
    ∃ w since, last.monitor.fleet[i]? = some w ∧ last.past = since ++ marked.past ∧
      (Ordered (since ++ marked.past) → (∀ result ∈ aliveResults i since, result.isOk = false) →
        Recovering settings.health i cooldown markedAt w since) := by
  refine reached.run_induction (P := fun w since => Ordered (since ++ marked.past) →
    (∀ result ∈ aliveResults i since, result.isOk = false) →
      Recovering settings.health i cooldown markedAt w since) ?_ ?_ found went
  · intro _ _
    exact ⟨reached.consistent found, mark, List.isChain_singleton _, rfl⟩
  intro deadline w event sent since before _ toWorker ordered failed
  rw [List.cons_append] at ordered
  have recovering := before (ordered_tail ordered) fun result member =>
    failed result (mem_aliveResults_cons.mpr (.inr member))
  have consistent := Monitor.workerAfter_consistent settings deadline i event recovering.consistent
  have count := count_of_filter toWorker .alive
  -- Only a tick sends anything.
  have passing (noKinds : Monitor.kindsSent settings deadline i w event = [])
      (sameMark : (Monitor.workerAfter settings deadline i w event).excludedSince = w.excludedSince) :
      Recovering settings.health i cooldown markedAt
        (Monitor.workerAfter settings deadline i w event) (⟨event, sent⟩ :: since) := by
    rw [noKinds, List.count_nil] at count
    exact recovering.passing (List.count_eq_zero.mp count) consistent sameMark
  cases event with
  | tick now =>
      have earlier := ((ordered_cons (show (Monitor.Event.tick now).time? = some now from rfl)).mp
        ordered).1
      have judged := Health.judge_judged settings.health i now w
      have sentNow : sent.count ⟨.alive, i⟩ =
          if (Health.judge settings.health i now w).verdict = .probe then 1 else 0 := by
        rw [count, alive_count_kindsSent_tick]
      have after := recovering.judged allowed ?_ judged sentNow
      · simp only [Monitor.workerAfter, Monitor.tickWorker_eq]
        exact ⟨Health.consistent_archival _ _ after.consistent, after.mark, after.apart, after.counted⟩
      · intro time member
        refine earlier time ?_
        rw [times, List.filterMap_append, List.mem_append]
        rcases List.mem_append.mp member with isSent | isMark
        · exact .inl (mem_times_of_sent isSent)
        · exact .inr (List.mem_singleton.mp isMark ▸ seen)
  | aliveCompleted worker now result =>
      refine passing rfl ?_
      simp only [Monitor.workerAfter]
      by_cases same : worker = i
      · have isFailure := failed result (mem_aliveResults_cons.mpr (.inl (if_pos same)))
        cases result with
        | ok seqno => cases isFailure
        | error failure => rw [if_pos same]; rfl
      · rw [if_neg same]
  | archivalCompleted worker succeeded =>
      refine passing rfl ?_
      simp only [Monitor.workerAfter]
      split <;> rfl
  | select selection => exact passing rfl rfl
  | snapshot => exact passing rfl rfl

/-- A worker that a tick has marked bears the time of that tick. -/
theorem marked_at_tick {excluded : Worker} (found : s.monitor.fleet[i]? = some w)
    (unmarked : w.isExcluded = false) (ticked : s.step? settings (.tick markedAt) = some marked)
    (foundMarked : marked.monitor.fleet[i]? = some excluded) (mark : excluded.isExcluded = true) :
    excluded.excludedSince = some markedAt ∧ ∃ sent, marked.past = ⟨.tick markedAt, sent⟩ :: s.past := by
  cases Option.some.inj ticked
  rw [react_eq] at foundMarked ⊢
  refine ⟨?_, _, rfl⟩
  rw [Monitor.step_fleet_getElem?, found, Option.map_some] at foundMarked
  cases Option.some.inj foundMarked
  simp only [Monitor.workerAfter, Monitor.tickWorker_eq] at mark ⊢
  have unmarked : w.excludedSince = none := by simpa [Worker.isExcluded] using unmarked
  exact (Health.judge_judged settings.health i markedAt w).marked_now unmarked mark

/-- From the tick at which a worker is marked until its next success, in a run whose clock never goes
back: it is dead, one over the failure ceiling and excluded, in every snapshot as in its record, and it is
never selected; its recovery probes are a cooldown apart from each other and from the probe before the
mark, and the one at place `m`, from zero, comes `m + 1` cooldowns behind the mark.  A success makes it
alive, with nothing left of its failures. -/
theorem Reachable.marked_until_success (reached : Reachable settings size s)
    (allowed : settings.health.exclusionCooldown = some cooldown)
    (found : s.monitor.fleet[i]? = some w) (unmarked : w.isExcluded = false)
    (ticked : s.step? settings (.tick markedAt) = some marked) {excluded : Worker}
    (foundMarked : marked.monitor.fleet[i]? = some excluded) (mark : excluded.isExcluded = true)
    (went : marked.run? settings actions = some last) {since : List Moment}
    (past : last.past = since ++ marked.past) (ordered : Ordered last.past)
    (failed : ∀ result ∈ aliveResults i since, result.isOk = false) :
    (∃ w, last.monitor.fleet[i]? = some w ∧ w.alive = false ∧
      w.failures = settings.health.maxFailures + 1 ∧ w.isExcluded = true) ∧
    (∀ statuses, (last.monitor.step settings .snapshot).reply = some (.statuses statuses) →
      ∃ status, statuses[i]? = some status ∧ status.alive = false ∧
        status.failures = settings.health.maxFailures + 1 ∧ status.excluded = true) ∧
    (∀ selection chosen,
      (last.monitor.step settings (.select selection)).reply = some (.selected chosen) →
        i ∉ chosen) ∧
    (sendTimes i since).length = sentIn since ⟨.alive, i⟩ ∧
    Apart cooldown (sendTimes i since ++ (sendTimes i marked.past).take 1) ∧
    (∀ m time, (sendTimes i since).reverse[m]? = some time → markedAt + (m + 1) * cooldown ≤ time) ∧
    ∀ seqno rest now next, last.inbox = ⟨⟨.alive, i⟩, .ok seqno⟩ :: rest →
      last.step? settings (.deliver now) = some next →
        ∃ w, next.monitor.fleet[i]? = some w ∧ w.alive = true ∧ w.failures = 0 ∧
          w.retryAt = none ∧ w.excludedSince = none := by
  obtain ⟨isMark, sent, markedPast⟩ := marked_at_tick found unmarked ticked foundMarked mark
  have seen : markedAt ∈ times marked.past := by
    rw [markedPast, times_cons rfl]
    exact List.mem_cons_self
  obtain ⟨w, others, foundLast, samePast, onward⟩ :=
    (reached.step ticked).recovering allowed foundMarked isMark seen went
  have same : others = since := List.append_cancel_right (samePast.symm.trans past)
  rw [same, ← past] at onward
  have recovering := onward ordered failed
  obtain ⟨dead, failures⟩ := recovering.consistent.excluded_over recovering.isExcluded
  refine ⟨⟨w, foundLast, dead, failures, recovering.isExcluded⟩, ?_, ?_, recovering.counted, ?_, ?_, ?_⟩
  · intro statuses replied
    cases replied
    refine ⟨w.status i, ?_, dead, failures, recovering.isExcluded⟩
    rw [Fleet.snapshot, List.getElem?_mapIdx, foundLast, Option.map_some]
  · intro selection chosen selected
    exact Monitor.not_selected_of_dead foundLast dead selection chosen selected
  · -- Whatever was sent before the mark was sent no later than the mark.
    obtain ⟨apart, -, behind⟩ := List.isChain_append.mp recovering.apart
    refine List.isChain_append.mpr ⟨apart, ?_, ?_⟩
    · cases sendTimes i marked.past with
      | nil => exact .nil
      | cons first _ => exact .singleton first
    · intro time isLast before isFirst
      have earlier : before ≤ markedAt := by
        have sentBefore := List.mem_of_mem_take (List.mem_of_mem_head? isFirst)
        have timed := mem_times_of_sent sentBefore
        rw [past] at ordered
        have orderedMarked : Ordered marked.past := ordered.sublist
          ((List.sublist_append_right since marked.past).filterMap _)
        rw [markedPast, times_cons rfl] at timed
        rw [markedPast, ordered_cons rfl] at orderedMarked
        rcases List.mem_cons.mp timed with rfl | timed
        · exact Nat.le_refl _
        · exact orderedMarked.1 before timed
      have := behind time isLast markedAt rfl
      omega
  · intro m time isNth
    exact recovering.apart.le_of_reverse isNth
  · intro seqno rest now next waiting delivered
    simp only [step?, waiting, Option.some.injEq] at delivered
    subst delivered
    refine ⟨Health.afterProbe settings.health now (.ok seqno) w, ?_, rfl, rfl, rfl, rfl⟩
    rw [react_eq, Monitor.step_fleet_getElem?, foundLast, Option.map_some]
    simp [Answered.event, Monitor.workerAfter]

/-- A worker that is marked at 13000, after its second failure: of its recovery probes, sent at 313000 and
613000, the first one fails and the second one succeeds. -/
theorem marked_until_success_two_probes :
    let settings : Settings := { configPath := "net", health := { maxFailures := 0 } }
    ∃ s marked last next : Watch Random.Keystream, Reachable settings 1 s ∧
      s.step? settings (.tick 13000) = some marked ∧
      marked.run? settings [.tick 313000, .answer ⟨.alive, 0⟩ (.error (.timeout 5000)),
        .deliver 318000, .tick 613000, .answer ⟨.alive, 0⟩ (.ok 5)] = some last ∧
      sendTimes 0 last.past = [613000, 313000, 12000, 1000] ∧
      Apart 300000 [613000, 313000, 12000] ∧ last.step? settings (.deliver 613100) = some next ∧
      ∃ w, next.monitor.fleet[0]? = some w ∧ w.alive = true ∧ w.failures = 0 := by
  have reached : Reachable { configPath := "net", health := { maxFailures := 0 } } 1 _ :=
    (Reachable.start (Random.Keystream.ofSeed 7)).run (show run? _ _ [.tick 1000,
      .answer ⟨.alive, 0⟩ (.error (.timeout 5000)), .deliver 1100, .tick 12000,
      .answer ⟨.alive, 0⟩ (.error (.timeout 5000)), .deliver 12100] = some {
        monitor := ⟨[{ failures := 1, retryAt := some 22100 }], 22000, .ofSeed 7⟩
        past := [⟨.aliveCompleted 0 12100 (.error (.timeout 5000)), []⟩, ⟨.tick 12000, [⟨.alive, 0⟩]⟩,
          ⟨.aliveCompleted 0 1100 (.error (.timeout 5000)), []⟩,
          ⟨.tick 1000, [⟨.alive, 0⟩]⟩] } from rfl)
  obtain ⟨-, -, -, -, apart, -, success⟩ := reached.marked_until_success (i := 0) rfl rfl rfl
    (show step? _ _ (.tick 13000) = some _ from rfl) rfl rfl
    (show run? _ _ [.tick 313000, .answer ⟨.alive, 0⟩ (.error (.timeout 5000)), .deliver 318000,
      .tick 613000, .answer ⟨.alive, 0⟩ (.ok 5)] = some _ from rfl)
    (show _ = [⟨.tick 613000, [⟨.alive, 0⟩]⟩,
      ⟨.aliveCompleted 0 318000 (.error (.timeout 5000)), []⟩,
      ⟨.tick 313000, [⟨.alive, 0⟩]⟩] ++ _ from rfl)
    (show ([613000, 318000, 313000, 13000, 12100, 12000, 1100, 1000] : List Nat).Pairwise _ by decide)
    (by decide)
  obtain ⟨w, found, alive, failures, -, -⟩ := success 5 [] 613100 _ rfl rfl
  exact ⟨_, _, _, _, reached, rfl, rfl, rfl, apart, rfl, w, found, alive, failures⟩

end Watch

end LiteserverFleet
