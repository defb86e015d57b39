import LiteserverFleet.Proofs.Monitor.DueTime
import LiteserverFleet.Proofs.Settings

/-!
# The retry interval

A failed alive-probe sets a retry time, the retry interval behind it.  Within the failure ceiling the
next alive-probe waits for that time; over the ceiling it waits for the exclusion cooldown instead,
which counts from the mark or from the last recovery probe and not from the failure.  Hence the
interval is kept by all runs if the cooldown is at least as long as a probe and the interval together,
or if there is no cooldown, and by no others (`spaced_iff_cooldown`).
-/

set_option autoImplicit false

namespace LiteserverFleet

def Monitor.Event.time? : Monitor.Event → Option Nat
  | .tick now => some now
  | .aliveCompleted _ now _ => some now
  | _ => none

def Monitor.Event.failure? (i : Nat) : Monitor.Event → Option Nat
  | .aliveCompleted worker now (.error _) => if worker = i then some now else none
  | _ => none

namespace Watch

def times (past : List Moment) : List Nat :=
  past.filterMap fun moment => moment.event.time?

/-- The clock of a past never went back. -/
def Ordered (past : List Moment) : Prop :=
  (times past).Pairwise fun later earlier => earlier ≤ later

/-- When failed alive-probes of a worker were applied, latest first. -/
def failureTimes (i : Nat) (past : List Moment) : List Nat :=
  past.filterMap fun moment => moment.event.failure? i

/-- The time of the last tick that sent an alive-probe to a worker. -/
def lastSent? (i : Nat) : List Moment → Option Nat
  | [] => none
  | moment :: earlier =>
      if ⟨.alive, i⟩ ∈ moment.sent then moment.event.time? else lastSent? i earlier

/-- Every alive-probe of a worker was completed within a timeout. -/
def Prompt (timeout i : Nat) : List Moment → Prop
  | [] => True
  | moment :: earlier =>
      (moment.event.completed? = some ⟨.alive, i⟩ → ∀ now sentAt, moment.event.time? = some now →
        lastSent? i earlier = some sentAt → now ≤ sentAt + timeout) ∧ Prompt timeout i earlier

/-- No alive-probe was sent to a worker before an interval had passed since each failure of it. -/
def Spaced (interval i : Nat) : List Moment → Prop
  | [] => True
  | moment :: earlier =>
      (⟨.alive, i⟩ ∈ moment.sent → ∃ now, moment.event = .tick now ∧
        ∀ time ∈ failureTimes i earlier, time + interval ≤ now) ∧ Spaced interval i earlier

/-- How the record of a worker bounds its failures: the next alive-probe, whatever lets it be sent, is
sent an interval behind each of them. -/
structure Guarded (settings : HealthSettings) (i : Nat) (w : Worker) (past : List Moment) : Prop where
  inFlight : w.probeInFlight = true → ∃ sentAt, lastSent? i past = some sentAt ∧
    (∀ time ∈ failureTimes i past, time + settings.retryInterval ≤ sentAt) ∧
      ∀ since, w.excludedSince = some since → since = sentAt
  alive : w.alive = true → w.probeInFlight = false → ∃ sentAt, lastSent? i past = some sentAt ∧
    ∀ time ∈ failureTimes i past, time + settings.retryInterval ≤ sentAt
  fresh : w.alive = false → w.probeInFlight = false → w.retryAt = none → failureTimes i past = []
  deadline : w.probeInFlight = false → ∀ due, w.retryAt = some due →
    ∀ time ∈ failureTimes i past, time + settings.retryInterval ≤ due
  mark : w.probeInFlight = false → ∀ since cooldown, w.excludedSince = some since →
    settings.exclusionCooldown = some cooldown →
      ∀ time ∈ failureTimes i past, time + settings.retryInterval ≤ since + cooldown

section Past

variable {i now : Nat} {event : Monitor.Event} {sent : List Probe} {past : List Moment}

theorem times_cons (timed : event.time? = some now) :
    times (⟨event, sent⟩ :: past) = now :: times past := by
  simp [times, timed]

theorem ordered_tail {moment : Moment} (ordered : Ordered (moment :: past)) : Ordered past :=
  ordered.sublist ((List.sublist_cons_self moment past).filterMap _)

theorem ordered_cons (timed : event.time? = some now) :
    Ordered (⟨event, sent⟩ :: past) ↔ (∀ time ∈ times past, time ≤ now) ∧ Ordered past := by
  rw [Ordered, times_cons timed, List.pairwise_cons]
  exact Iff.rfl

theorem time?_of_failure? {time : Nat} (failed : event.failure? i = some time) :
    event.time? = some time := by
  cases event with
  | aliveCompleted worker now result =>
      cases result with
      | ok seqno => cases failed
      | error failure =>
          simp only [Monitor.Event.failure?] at failed
          split at failed
          · exact failed
          · cases failed
  | tick now => cases failed
  | archivalCompleted worker succeeded => cases failed
  | select selection => cases failed
  | snapshot => cases failed

theorem mem_times_of_failure {time : Nat} (failed : time ∈ failureTimes i past) :
    time ∈ times past := by
  obtain ⟨moment, member, isFailure⟩ := List.mem_filterMap.mp failed
  exact List.mem_filterMap.mpr ⟨moment, member, time?_of_failure? isFailure⟩

theorem mem_times_of_lastSent {sentAt : Nat} (last : lastSent? i past = some sentAt) :
    sentAt ∈ times past := by
  induction past with
  | nil => cases last
  | cons moment earlier ih =>
      simp only [lastSent?] at last
      split at last
      · exact List.mem_filterMap.mpr ⟨moment, List.mem_cons_self, last⟩
      · obtain ⟨before, member, timed⟩ := List.mem_filterMap.mp (ih last)
        exact List.mem_filterMap.mpr ⟨before, List.mem_cons_of_mem _ member, timed⟩

/-! ## One step -/

variable {settings : HealthSettings} {w next : Worker}

theorem guarded_fresh (settings : HealthSettings) (i : Nat) : Guarded settings i {} [] where
  inFlight waiting := by cases waiting
  alive alive := by cases alive
  fresh _ _ _ := rfl
  deadline _ _ due := by cases due
  mark _ _ _ marked := by cases marked

/-- What is seen of a moment that neither sends an alive-probe to the worker nor is a failure of it. -/
theorem guarded_passing (noneSent : ⟨.alive, i⟩ ∉ sent) (noFailure : event.failure? i = none)
    (before : Guarded settings i w past) : Guarded settings i w (⟨event, sent⟩ :: past) := by
  have last : lastSent? i (⟨event, sent⟩ :: past) = lastSent? i past := if_neg noneSent
  have failures : failureTimes i (⟨event, sent⟩ :: past) = failureTimes i past := by
    simp [failureTimes, noFailure]
  constructor
  · rw [last, failures]
    exact before.inFlight
  · rw [last, failures]
    exact before.alive
  · rw [failures]
    exact before.fresh
  · rw [failures]
    exact before.deadline
  · rw [failures]
    exact before.mark

theorem guarded_archival (archival waiting : Bool) (before : Guarded settings i w past) :
    Guarded settings i (w.withArchival archival waiting) past :=
  ⟨before.inFlight, before.alive, before.fresh, before.deadline, before.mark⟩

/-- A worker that is sent an alive-probe on a tick is guarded by that tick. -/
theorem guarded_sent (sentNow : ⟨.alive, i⟩ ∈ sent) (inFlight : next.probeInFlight = true)
    (spaced : ∀ time ∈ failureTimes i past, time + settings.retryInterval ≤ now)
    (mark : ∀ since, next.excludedSince = some since → since = now) :
    Guarded settings i next (⟨.tick now, sent⟩ :: past) where
  inFlight _ := ⟨now, if_pos sentNow, spaced, mark⟩
  alive _ idle := by simp [inFlight] at idle
  fresh _ idle := by simp [inFlight] at idle
  deadline idle := by simp [inFlight] at idle
  mark idle := by simp [inFlight] at idle

theorem unmarked_of_within (consistent : w.Consistent settings)
    (within : w.failures ≤ settings.maxFailures) : w.excludedSince = none := by
  cases mark : w.excludedSince with
  | none => rfl
  | some since =>
      have beyond := (consistent.excluded_over (by simp [Worker.isExcluded, mark])).2
      omega

/-- A probe that a judgement sends comes an interval behind all failures, if no mark is younger than
the failure that led to it and the cooldown is no shorter than the interval. -/
theorem guarded_judged {verdict : Verdict} (judged : Health.Judged settings now w verdict next)
    (ordered : Ordered (⟨.tick now, sent⟩ :: past)) (consistent : w.Consistent settings)
    (wide : ∀ cooldown, settings.exclusionCooldown = some cooldown →
      settings.retryInterval ≤ cooldown)
    (sent_iff : ⟨.alive, i⟩ ∈ sent ↔ verdict = .probe) (before : Guarded settings i w past) :
    Guarded settings i next (⟨.tick now, sent⟩ :: past) ∧
      (⟨.alive, i⟩ ∈ sent →
        ∀ time ∈ failureTimes i past, time + settings.retryInterval ≤ now) := by
  have earlier := ((ordered_cons (show (Monitor.Event.tick now).time? = some now from rfl)).mp
    ordered).1
  -- A verdict that sends nothing leaves the guard as it was, one that sends replaces it.
  have passing (told : verdict ≠ .probe) (guarded : Guarded settings i next past) :
      Guarded settings i next (⟨.tick now, sent⟩ :: past) ∧ (⟨.alive, i⟩ ∈ sent →
        ∀ time ∈ failureTimes i past, time + settings.retryInterval ≤ now) := by
    have noneSent : ⟨.alive, i⟩ ∉ sent := fun sentNow => told (sent_iff.mp sentNow)
    exact ⟨guarded_passing noneSent rfl guarded, fun sentNow => absurd sentNow noneSent⟩
  have sending (told : verdict = .probe) (inFlight : next.probeInFlight = true)
      (spaced : ∀ time ∈ failureTimes i past, time + settings.retryInterval ≤ now)
      (mark : ∀ since, next.excludedSince = some since → since = now) :
      Guarded settings i next (⟨.tick now, sent⟩ :: past) ∧ (⟨.alive, i⟩ ∈ sent →
        ∀ time ∈ failureTimes i past, time + settings.retryInterval ≤ now) :=
    ⟨guarded_sent (sent_iff.mpr told) inFlight spaced mark, fun _ => spaced⟩
  cases judged with
  | inFlight waiting => exact passing (by decide) before
  | coolingDown idle dead beyond mark early => exact passing (by decide) before
  | early idle dead within due notYet => exact passing (by decide) before
  | stranded idle dead within noDeadline failed => exact passing (by decide) before
  | marked idle dead beyond unmarked =>
      refine passing (by decide) ⟨?_, before.alive, before.fresh, before.deadline, ?_⟩
      · intro waiting
        simp [idle] at waiting
      · intro _ since cooldown marked allowed time failed
        cases Option.some.inj marked
        have past := earlier time (mem_times_of_failure failed)
        have := wide cooldown allowed
        omega
  | alive idle alive =>
      obtain ⟨sentAt, last, spaced⟩ := before.alive alive idle
      have sentBefore := earlier sentAt (mem_times_of_lastSent last)
      refine sending rfl rfl ?_ ?_
      · intro time failed
        exact Nat.le_trans (spaced time failed) sentBefore
      · intro since marked
        simp [(consistent.alive_clean alive).2.2] at marked
  | @recovery since cooldown idle dead beyond mark allowed late =>
      refine sending rfl rfl ?_ ?_
      · intro time failed
        have guard := before.mark idle since cooldown mark allowed time failed
        have := wide cooldown allowed
        have := earlier time (mem_times_of_failure failed)
        omega
      · intro later marked
        exact (Option.some.inj marked).symm
  | @retry due idle dead within deadline reached =>
      refine sending rfl rfl ?_ ?_
      · intro time failed
        exact Nat.le_trans (before.deadline idle due deadline time failed) reached
      · intro since marked
        simp [unmarked_of_within consistent within] at marked
  | first idle dead noDeadline noFailure =>
      refine sending rfl rfl ?_ ?_
      · intro time failed
        simp [before.fresh dead idle noDeadline] at failed
      · intro since marked
        simp [unmarked_of_within consistent (show w.failures ≤ _ by omega)] at marked

/-- A completed probe was in flight, so all failures but its own are an interval older than it; its own
is, if the cooldown outlasts a probe and the interval, an interval older than what lets the next one be
sent. -/
theorem guarded_afterProbe (result : Health.ProbeResult)
    (ordered : Ordered (⟨.aliveCompleted i now result, sent⟩ :: past))
    (prompt : ∀ sentAt, lastSent? i past = some sentAt → now ≤ sentAt + settings.probeTimeout)
    (wide : ∀ cooldown, settings.exclusionCooldown = some cooldown →
      settings.probeTimeout + settings.retryInterval ≤ cooldown)
    (noneSent : ⟨.alive, i⟩ ∉ sent) (waiting : w.probeInFlight = true)
    (before : Guarded settings i w past) :
    Guarded settings i (Health.afterProbe settings now result w)
      (⟨.aliveCompleted i now result, sent⟩ :: past) := by
  have earlier := ((ordered_cons
    (show (Monitor.Event.aliveCompleted i now result).time? = some now from rfl)).mp ordered).1
  have last : lastSent? i (⟨.aliveCompleted i now result, sent⟩ :: past) = lastSent? i past :=
    if_neg noneSent
  obtain ⟨sentAt, lastSent, spaced, mark⟩ := before.inFlight waiting
  have sentBefore := earlier sentAt (mem_times_of_lastSent lastSent)
  cases result with
  | ok seqno =>
      have failures : failureTimes i (⟨.aliveCompleted i now (.ok seqno), sent⟩ :: past) =
          failureTimes i past := rfl
      exact {
        inFlight := fun waiting => by cases waiting
        alive := fun _ _ => ⟨sentAt, last.trans lastSent, failures ▸ spaced⟩
        fresh := fun dead => by cases dead
        deadline := fun _ _ due => by cases due
        mark := fun _ _ _ marked => by cases marked }
  | error failure =>
      have failures : failureTimes i (⟨.aliveCompleted i now (.error failure), sent⟩ :: past) =
          now :: failureTimes i past := by
        simp [failureTimes, Monitor.Event.failure?]
      exact {
        inFlight := fun waiting => by cases waiting
        alive := fun alive => by cases alive
        fresh := fun _ _ noDeadline => by cases noDeadline
        deadline := by
          intro _ due isDue time failed
          cases Option.some.inj isDue
          rw [failures] at failed
          rcases List.mem_cons.mp failed with rfl | failed
          · exact Nat.le_refl _
          · have := spaced time failed
            omega
        mark := by
          intro _ since cooldown marked allowed time failed
          have isSent : since = sentAt := mark since marked
          have inTime := prompt sentAt lastSent
          have long := wide cooldown allowed
          rw [failures] at failed
          rcases List.mem_cons.mp failed with rfl | failed
          · omega
          · have := spaced time failed
            omega }

end Past

/-! ## Whole runs -/

variable {σ : Type} [WordSource σ] {settings : Settings} {size i : Nat} {s : Watch σ} {w : Worker}

theorem mem_of_filter {sent : List Probe} {kinds : List ProbeKind} (kind : ProbeKind)
    (toWorker : sent.filter (fun probe => probe.worker = i) = kinds.map fun kind => ⟨kind, i⟩) :
    ⟨kind, i⟩ ∈ sent ↔ kind ∈ kinds := by
  rw [← List.count_pos_iff, ← List.count_pos_iff, count_of_filter toWorker kind]

theorem alive_mem_kindsSent_tick {deadline now : Nat} :
    .alive ∈ Monitor.kindsSent settings deadline i w (.tick now) ↔
      (Health.judge settings.health i now w).verdict = .probe := by
  simp only [Monitor.kindsSent, List.mem_append]
  constructor
  · rintro (alive | archival)
    · split at alive
      · next probe => exact probe
      · cases alive
    · split at archival <;> simp at archival
  · intro probe
    simp [probe]

theorem Reachable.fleet_length (reached : Reachable settings size s) :
    s.monitor.fleet.length = size := by
  induction reached with
  | start source => exact List.length_replicate
  | step reached went ih =>
      cases moved_of_step? went with
      | arrived called => exact ih
      | applied waiting => rw [react_eq, Monitor.step_fleet_length, ih]
      | saw completesNone => rw [react_eq, Monitor.step_fleet_length, ih]

/-- If the cooldown outlasts a probe and the retry interval, every worker is guarded at any time, and
the interval has been kept. -/
theorem Reachable.guarded (reached : Reachable settings size s)
    (found : s.monitor.fleet[i]? = some w)
    (wide : ∀ cooldown, settings.health.exclusionCooldown = some cooldown →
      settings.health.probeTimeout + settings.health.retryInterval ≤ cooldown) :
    Ordered s.past → Prompt settings.health.probeTimeout i s.past →
      w.Consistent settings.health ∧ Guarded settings.health i w s.past ∧
        Spaced settings.health.retryInterval i s.past := by
  have intervalWide (cooldown : Nat) (allowed : settings.health.exclusionCooldown = some cooldown) :
      settings.health.retryInterval ≤ cooldown := by
    have := wide cooldown allowed
    omega
  refine reached.record_induction (P := fun i w past =>
    Ordered past → Prompt settings.health.probeTimeout i past →
      w.Consistent settings.health ∧ Guarded settings.health i w past ∧
        Spaced settings.health.retryInterval i past) ?_ ?_ found
  · intro i _ _
    exact ⟨Health.consistent_fresh _, guarded_fresh _ i, trivial⟩
  intro deadline i w event sent past before awaits toWorker ordered prompt
  obtain ⟨consistent, guarded, spaced⟩ := before (ordered_tail ordered) prompt.2
  refine ⟨Monitor.workerAfter_consistent settings deadline i event consistent, ?_⟩
  have sent_iff := mem_of_filter .alive toWorker
  -- Whatever is no tick sends nothing, so only the guard is left to show.
  have quiet (noKinds : Monitor.kindsSent settings deadline i w event = [])
      (guard : ⟨.alive, i⟩ ∉ sent → Guarded settings.health i
        (Monitor.workerAfter settings deadline i w event) (⟨event, sent⟩ :: past)) :
      Guarded settings.health i (Monitor.workerAfter settings deadline i w event)
        (⟨event, sent⟩ :: past) ∧
          Spaced settings.health.retryInterval i (⟨event, sent⟩ :: past) := by
    have noneSent : ⟨.alive, i⟩ ∉ sent := by
      rw [sent_iff, noKinds]
      exact List.not_mem_nil
    exact ⟨guard noneSent, fun sentNow => absurd sentNow noneSent, spaced⟩
  cases event with
  | tick now =>
      have judged := Health.judge_judged settings.health i now w
      obtain ⟨guard, kept⟩ := guarded_judged judged ordered consistent intervalWide
        (sent_iff.trans alive_mem_kindsSent_tick) guarded
      refine ⟨?_, fun sentNow => ⟨now, rfl, kept sentNow⟩, spaced⟩
      simp only [Monitor.workerAfter, Monitor.tickWorker_eq]
      exact guarded_archival _ _ guard
  | aliveCompleted worker now result =>
      refine quiet rfl fun noneSent => ?_
      simp only [Monitor.workerAfter]
      by_cases same : worker = i
      · subst same
        have inTime (sentAt : Nat) (last : lastSent? worker past = some sentAt) :
            now ≤ sentAt + settings.health.probeTimeout := prompt.1 rfl now sentAt rfl last
        rw [if_pos rfl]
        exact guarded_afterProbe result ordered inTime wide noneSent (awaits .alive rfl) guarded
      · have noFailure : (Monitor.Event.aliveCompleted worker now result).failure? i = none := by
          cases result with
          | ok seqno => rfl
          | error failure => exact if_neg same
        rw [if_neg same]
        exact guarded_passing noneSent noFailure guarded
  | archivalCompleted worker succeeded =>
      refine quiet rfl fun noneSent => ?_
      have passing : Guarded settings.health i w (⟨.archivalCompleted worker succeeded, sent⟩ :: past) :=
        guarded_passing noneSent rfl guarded
      simp only [Monitor.workerAfter]
      split
      · exact guarded_archival succeeded false passing
      · exact passing
  | select selection => exact quiet rfl fun noneSent => guarded_passing noneSent rfl guarded
  | snapshot => exact quiet rfl fun noneSent => guarded_passing noneSent rfl guarded

/-! ## A run that breaks the interval -/

/-- A watch of an ordered and prompt run, at a time behind all that it has seen and with no answer
waiting, with the record of a worker. -/
structure Underway (settings : Settings) (size i : Nat) (s : Watch σ) (w : Worker) (clock : Nat) :
    Prop where
  reached : Reachable settings size s
  found : s.monitor.fleet[i]? = some w
  inbox : s.inbox = []
  ordered : Ordered s.past
  behind : ∀ time ∈ times s.past, time ≤ clock
  prompt : Prompt settings.health.probeTimeout i s.past

section Underway

variable {clock now : Nat}

theorem underway_start (settings : Settings) (source : σ) (there : i < size) :
    Underway settings size i (.start settings size source) {} 0 where
  reached := .start source
  found := by simp [start, Monitor.start, Fleet.fresh, there]
  inbox := rfl
  ordered := List.Pairwise.nil
  behind _ seen := by cases seen
  prompt := trivial

theorem Underway.tick (underway : Underway settings size i s w clock) (later : clock ≤ now) :
    ∃ (next : Watch σ) (sent : List Probe),
      Underway settings size i next
        (Monitor.workerAfter settings s.monitor.archivalDeadline i w (.tick now)) now ∧
      next.past = ⟨.tick now, sent⟩ :: s.past ∧
        (⟨.alive, i⟩ ∈ sent ↔ (Health.judge settings.health i now w).verdict = .probe) := by
  have went : s.step? settings (.tick now) = some (s.react settings (.tick now)) := rfl
  have sent_iff := mem_of_filter .alive
    (Monitor.step_sent_filter settings s.monitor (.tick now) i)
  rw [underway.found, Option.elim_some, alive_mem_kindsSent_tick] at sent_iff
  have grown : times (s.react settings (.tick now)).past = now :: times s.past := by
    rw [react_eq]
    exact times_cons rfl
  have behind (time : Nat) (seen : time ∈ times s.past) : time ≤ now :=
    Nat.le_trans (underway.behind time seen) later
  refine ⟨s.react settings (.tick now), _, ⟨underway.reached.step went, ?_, ?_, ?_, ?_, ?_⟩,
    by rw [react_eq], sent_iff⟩
  · rw [react_eq, Monitor.step_fleet_getElem?, underway.found, Option.map_some]
  · rw [react_eq]
    exact underway.inbox
  · rw [react_eq]
    exact (ordered_cons rfl).mpr ⟨behind, underway.ordered⟩
  · rw [grown]
    exact List.forall_mem_cons.mpr ⟨Nat.le_refl now, behind⟩
  · rw [react_eq]
    refine ⟨?_, underway.prompt⟩
    intro completes
    cases completes

theorem Underway.fail (underway : Underway settings size i s w clock) (later : clock ≤ now)
    (waiting : w.probeInFlight = true)
    (inTime : ∀ sentAt, lastSent? i s.past = some sentAt →
      now ≤ sentAt + settings.health.probeTimeout) (failure : FleetError) :
    ∃ next : Watch σ,
      Underway settings size i next (Health.afterProbe settings.health now (.error failure) w) now ∧
      next.past = ⟨.aliveCompleted i now (.error failure), []⟩ :: s.past := by
  have called : ⟨.alive, i⟩ ∈ s.calls := by
    have balance := underway.reached.outstanding_eq ⟨.alive, i⟩
    rw [flagged_eq underway.found, Worker.awaits, waiting, outstanding, underway.inbox] at balance
    exact List.count_pos_iff.mp (by simpa using Nat.lt_of_lt_of_eq Nat.one_pos balance.symm)
  have answered : s.step? settings (.answer ⟨.alive, i⟩ (.error failure)) =
      some { s with
        calls := s.calls.erase ⟨.alive, i⟩, inbox := s.inbox ++ [⟨⟨.alive, i⟩, .error failure⟩] } :=
    if_pos called
  rw [underway.inbox, List.nil_append] at answered
  have delivered := (underway.reached.step answered).step
    (show step? settings _ (.deliver now) = some _ from rfl)
  have behind (time : Nat) (seen : time ∈ times s.past) : time ≤ now :=
    Nat.le_trans (underway.behind time seen) later
  refine ⟨_, ⟨delivered, ?_, ?_, ?_, ?_, ?_⟩, ?_⟩
  · rw [react_eq, Monitor.step_fleet_getElem?, underway.found, Option.map_some]
    simp [Answered.event, Monitor.workerAfter]
  · rw [react_eq]
  · rw [react_eq]
    exact (ordered_cons rfl).mpr ⟨behind, underway.ordered⟩
  · rw [react_eq]
    intro time seen
    change time ∈ now :: times s.past at seen
    rcases List.mem_cons.mp seen with rfl | seen
    · exact Nat.le_refl time
    · exact behind time seen
  · rw [react_eq]
    refine ⟨?_, underway.prompt⟩
    intro _ applied sentAt isNow last
    cases Option.some.inj isNow
    exact inTime sentAt last
  · rw [react_eq]
    rfl

/-- What a round leaves behind in which a probe is sent at a time and fails after a delay: a dead worker
that waits, and the counts and marks of the judgement. -/
theorem Underway.round (underway : Underway settings size i s w clock) (later : clock ≤ now)
    (probe : (Health.judge settings.health i now w).verdict = .probe) {delay : Nat}
    (inTime : delay ≤ settings.health.probeTimeout) :
    ∃ (next : Watch σ) (record : Worker),
      Underway settings size i next record (now + delay) ∧
      now + delay ∈ failureTimes i next.past ∧ record.alive = false ∧
      record.probeInFlight = false ∧
      record.failures = (Health.judge settings.health i now w).worker.failures ∧
      record.retryAt = some (now + delay + settings.health.retryInterval) ∧
      record.excludedSince = (Health.judge settings.health i now w).worker.excludedSince := by
  obtain ⟨sending, sent, ticked, sentPast, sent_iff⟩ := underway.tick later
  have waiting : (Monitor.workerAfter settings s.monitor.archivalDeadline i w
      (.tick now)).probeInFlight = true := by
    simp only [Monitor.workerAfter, Monitor.tickWorker_eq]
    exact ((Health.judge_judged settings.health i now w).probe_iff.mp probe).2
  have last : lastSent? i sending.past = some now := by
    rw [sentPast]
    exact if_pos (sent_iff.mpr probe)
  have prompt (sentAt : Nat) (isLast : lastSent? i sending.past = some sentAt) :
      now + delay ≤ sentAt + settings.health.probeTimeout := by
    cases Option.some.inj (last.symm.trans isLast)
    omega
  obtain ⟨failed, record, failedPast⟩ := ticked.fail (Nat.le_add_right now delay) waiting prompt
    .noLiteservers
  refine ⟨failed, _, record, ?_, rfl, rfl, ?_, rfl, ?_⟩
  · simp [failedPast, failureTimes, Monitor.Event.failure?]
  · simp only [Monitor.workerAfter, Monitor.tickWorker_eq]
    rfl
  · simp only [Monitor.workerAfter, Monitor.tickWorker_eq]
    rfl

/-- A worker whose probes all fail at once, each retry as soon as it may be, up to any count within one
over the ceiling. -/
theorem exists_failing (settings : Settings) (source : σ) (there : i < size) (count : Nat)
    (bounded : count ≤ settings.health.maxFailures + 1) :
    ∃ (s : Watch σ) (w : Worker) (clock : Nat), Underway settings size i s w clock ∧
      w.alive = false ∧ w.probeInFlight = false ∧ w.failures = count ∧
      w.retryAt = some (clock + settings.health.retryInterval) ∧ w.excludedSince = none := by
  induction count with
  | zero =>
      have judged : Health.judge settings.health i 0 {} =
          { verdict := .probe, worker := { probeInFlight := true } } := by
        simp [Health.judge, Health.sendProbe]
      obtain ⟨next, record, after, -, dead, idle, failures, deadline, mark⟩ :=
        (underway_start settings source there).round (Nat.le_refl 0)
          (by rw [judged]) (Nat.zero_le _)
      rw [judged] at failures mark
      exact ⟨next, record, 0, after, dead, idle, failures, deadline, mark⟩
  | succ count ih =>
      obtain ⟨s, w, clock, underway, dead, idle, failures, deadline, unmarked⟩ := ih (by omega)
      have within : ¬ settings.health.maxFailures < w.failures := by omega
      have judged : (Health.judge settings.health i (clock + settings.health.retryInterval) w).verdict =
          .probe ∧ (Health.judge settings.health i (clock + settings.health.retryInterval) w).worker =
            { w with probeInFlight := true, retryAt := none, failures := w.failures + 1 } := by
        simp [Health.judge, Health.sendProbe, idle, dead, within, deadline]
      obtain ⟨next, record, after, -, dead', idle', failures', deadline', mark⟩ :=
        underway.round (Nat.le_add_right clock settings.health.retryInterval) judged.1
          (Nat.zero_le _)
      rw [judged.2] at failures' mark
      exact ⟨next, record, _, after, dead', idle', by rw [failures', failures], deadline',
        by rw [mark, unmarked]⟩

end Underway

theorem judge_recovery {settings : HealthSettings} {since cooldown : Nat} (i now : Nat)
    (idle : w.probeInFlight = false) (dead : w.alive = false)
    (beyond : settings.maxFailures < w.failures) (mark : w.excludedSince = some since)
    (allowed : settings.exclusionCooldown = some cooldown) (late : cooldown ≤ now - since) :
    (Health.judge settings i now w).verdict = .probe ∧
      (Health.judge settings i now w).worker =
        { w with probeInFlight := true, excludedSince := some now, retryAt := none } := by
  simp [Health.judge, Health.judgeExcluded, Health.sendProbe, idle, dead, beyond, mark, allowed, late]

/-- The retry interval is kept by every ordered and prompt run exactly if there is no cooldown, or one
that is at least as long as a probe and the interval together. -/
theorem spaced_iff_cooldown {settings : Settings} (valid : settings.validate = .ok ())
    {size i : Nat} (there : i < size) (source : σ) :
    (∀ s : Watch σ, Reachable settings size s → Ordered s.past →
      Prompt settings.health.probeTimeout i s.past →
        Spaced settings.health.retryInterval i s.past) ↔
      ∀ cooldown, settings.health.exclusionCooldown = some cooldown →
        settings.health.probeTimeout + settings.health.retryInterval ≤ cooldown := by
  constructor
  · intro spaced cooldown allowed
    obtain ⟨-, -, positive, -, -⟩ := (Settings.validate_eq_ok_iff settings).mp valid
    by_contra short
    -- The worker fails up to the ceiling, is marked at once, and its first recovery probe fails as
    -- late as a probe can: the next one comes as soon as the cooldown lets it.
    obtain ⟨s, w, clock, underway, dead, idle, failures, deadline, unmarked⟩ :=
      exists_failing settings source there _ (Nat.le_refl _)
    have beyond : settings.health.maxFailures < w.failures := by omega
    obtain ⟨marking, -, marked, -, -⟩ := underway.tick (Nat.le_refl clock)
    have mark := ((Health.judge_judged settings.health i clock w).eq_marked idle dead beyond
      unmarked).2
    simp only [Monitor.workerAfter, Monitor.tickWorker_eq, mark] at marked
    obtain ⟨probe, recovering⟩ := judge_recovery (w := Worker.withArchival
      { w with excludedSince := some clock } _ _) i (clock + cooldown) idle dead beyond rfl allowed
      (by omega)
    obtain ⟨failing, record, failed, failedAt, dead, idle, failures, -, mark⟩ :=
      marked.round (Nat.le_add_right clock cooldown) probe (Nat.le_refl _)
    rw [recovering] at failures mark
    have beyond : settings.health.maxFailures < record.failures := by
      rw [failures]
      exact beyond
    have longer := Nat.le_max_left settings.health.probeTimeout cooldown
    have enough := Nat.le_max_right settings.health.probeTimeout cooldown
    obtain ⟨probe, -⟩ := judge_recovery i
      (clock + cooldown + max settings.health.probeTimeout cooldown) idle dead beyond mark allowed
      (by omega)
    obtain ⟨last, sent, ticked, lastPast, sent_iff⟩ :=
      failed.tick (Nat.add_le_add_left longer (clock + cooldown))
    have kept := spaced last ticked.reached ticked.ordered ticked.prompt
    rw [lastPast] at kept
    obtain ⟨now, isNow, interval⟩ := kept.1 (sent_iff.mpr probe)
    cases isNow
    have := interval _ failedAt
    omega
  · intro wide s reached ordered prompt
    have present : i < s.monitor.fleet.length := by rw [reached.fleet_length]; exact there
    exact (reached.guarded (List.getElem?_eq_getElem present) wide ordered prompt).2.2

/-- Ten seconds after a failure and a probe of five seconds, a cooldown of fifteen seconds is just long
enough. -/
theorem spaced_iff_cooldown_fifteen_seconds :
    let settings : Settings := { configPath := "net", health := { exclusionCooldown := some 15000 } }
    settings.validate = .ok () ∧ ∀ s : Watch Random.Keystream, Reachable settings 1 s →
      Ordered s.past → Prompt 5000 0 s.past → Spaced 10000 0 s.past := by
  intro settings
  have valid : settings.validate = .ok () := rfl
  refine ⟨valid, ?_⟩
  refine (spaced_iff_cooldown valid Nat.one_pos (Random.Keystream.ofSeed 7)).mpr ?_
  intro cooldown allowed
  cases Option.some.inj allowed
  decide

/-- With a cooldown of two seconds the interval of ten seconds is broken: the retry at 11000 fails at
once, the worker is marked at 12000 and sent a recovery probe at 14000. -/
theorem not_spaced_short_cooldown :
    let settings : Settings :=
      { configPath := "net", health := { maxFailures := 0, exclusionCooldown := some 2000 } }
    settings.validate = .ok () ∧ ∃ s : Watch Random.Keystream, Reachable settings 1 s ∧
      Ordered s.past ∧ Prompt 5000 0 s.past ∧ ¬ Spaced 10000 0 s.past := by
  intro settings
  have reached : Reachable settings 1 _ :=
    (Reachable.start (Random.Keystream.ofSeed 7)).run (show run? _ _ [.tick 1000,
      .answer ⟨.alive, 0⟩ (.error (.client "down")), .deliver 1000, .tick 11000,
      .answer ⟨.alive, 0⟩ (.error (.client "down")), .deliver 11000, .tick 12000,
      .tick 14000] = some _ from rfl)
  refine ⟨rfl, _, reached, ?_, ?_, ?_⟩
  · exact show ([14000, 12000, 11000, 11000, 1000, 1000] : List Nat).Pairwise _ by decide
  · have atOnce (time : Nat) (now sentAt : Nat) (isNow : some time = some now)
        (isSent : some time = some sentAt) : now ≤ sentAt + 5000 := by
      cases isNow
      cases isSent
      exact Nat.le_add_right time 5000
    exact ⟨nofun, nofun, fun _ => atOnce 11000, nofun, fun _ => atOnce 1000, nofun, trivial⟩
  · rintro ⟨latest, -⟩
    obtain ⟨now, isNow, interval⟩ := latest (by decide)
    cases isNow
    have := interval 11000 (by decide)
    omega

end Watch

end LiteserverFleet
