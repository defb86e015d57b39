import LiteserverFleet.Proofs.Monitor.Watch
import LiteserverFleet.Random.Keystream

/-!
# Probes in flight

A flag of a worker says that a probe of one kind is in flight.  `Reachable.outstanding_eq` ties it
to what is really on its way: the probes without an answer and the answers in the inbox are, for
each worker and each kind, one if the flag is set and none otherwise.  Each probe that was sent is
on its way or has been applied, and an answer is applied only to a worker that waits for it.
-/

set_option autoImplicit false

namespace LiteserverFleet

def Worker.awaits (w : Worker) : ProbeKind → Bool
  | .alive => w.probeInFlight
  | .archival => w.archivalInFlight

namespace Monitor

variable {settings : Settings} {deadline i now : Nat} {w : Worker}

/-- A tick raises a flag exactly if it sends a probe of that kind, and lowers none. -/
theorem tick_awaits (kind : ProbeKind) :
    ((workerAfter settings deadline i w (.tick now)).awaits kind).toNat =
      (w.awaits kind).toNat + (kindsSent settings deadline i w (.tick now)).count kind := by
  have judged := Health.judge_judged settings.health i now w
  cases kind with
  | alive =>
      have others : (if Schedule.archivalDue deadline now ∧
          Archival.isDue (Health.judge settings.health i now w).worker
          then [ProbeKind.archival] else []).count .alive = 0 := by
        split <;> rfl
      simp only [workerAfter, Worker.awaits, tickWorker_eq, Worker.withArchival, kindsSent,
        List.count_append, others]
      by_cases sent : (Health.judge settings.health i now w).verdict = .probe
      · obtain ⟨idle, waiting⟩ := judged.probe_iff.mp sent
        rw [if_pos sent, idle, waiting]
        rfl
      · rw [if_neg sent]
        cases waiting : w.probeInFlight with
        | true => rw [judged.stays_inFlight waiting, waiting]; rfl
        | false =>
            cases next : (Health.judge settings.health i now w).worker.probeInFlight with
            | true => exact absurd (judged.probe_iff.mpr ⟨waiting, next⟩) sent
            | false => rfl
  | archival =>
      have others : (if (Health.judge settings.health i now w).verdict = .probe
          then [ProbeKind.alive] else []).count .archival = 0 := by
        split <;> rfl
      obtain ⟨sameAlive, -, -, sameFlag⟩ := judged.frame
      simp only [workerAfter, Worker.awaits, tickWorker_eq, Worker.withArchival, kindsSent,
        List.count_append, others, Archival.isDue, sameAlive, sameFlag]
      cases w.archivalInFlight <;> cases w.alive <;> cases Schedule.archivalDue deadline now <;> rfl

theorem saw_awaits (settings : Settings) (deadline i : Nat) (w : Worker) (kind : ProbeKind)
    {event : Event} (completesNone : event.completed? = none) :
    ((workerAfter settings deadline i w event).awaits kind).toNat =
      (w.awaits kind).toNat + (kindsSent settings deadline i w event).count kind := by
  cases event with
  | tick now => exact tick_awaits kind
  | aliveCompleted worker now result => cases completesNone
  | archivalCompleted worker succeeded => cases completesNone
  | select selection => rfl
  | snapshot => rfl

theorem applied_awaits (kind : ProbeKind) {event : Event} {probe : Probe}
    (completes : event.completed? = some probe) :
    (workerAfter settings deadline i w event).awaits kind =
      if probe = ⟨kind, i⟩ then false else w.awaits kind := by
  cases event with
  | tick now => cases completes
  | select selection => cases completes
  | snapshot => cases completes
  | aliveCompleted worker now result =>
      cases completes
      cases kind <;> by_cases same : worker = i <;> cases result <;>
        simp [workerAfter, Worker.awaits, Health.afterProbe, same]
  | archivalCompleted worker succeeded =>
      cases completes
      cases kind <;> by_cases same : worker = i <;>
        simp [workerAfter, Worker.awaits, Archival.afterProbe, same]

theorem applied_kindsSent {event : Event} {probe : Probe} (completes : event.completed? = some probe) :
    kindsSent settings deadline i w event = [] := by
  cases event with
  | tick now => cases completes
  | aliveCompleted worker now result => rfl
  | archivalCompleted worker succeeded => rfl
  | select selection => rfl
  | snapshot => rfl

end Monitor

namespace Watch

variable {σ : Type} [WordSource σ]

/-- How often a probe is on its way: without an answer, or with an answer that is not applied yet.
-/
def outstanding (s : Watch σ) (probe : Probe) : Nat :=
  s.calls.count probe + s.inbox.countP fun a => a.probe = probe

def sentIn (past : List Moment) (probe : Probe) : Nat :=
  (past.flatMap Moment.sent).count probe

def appliedIn (past : List Moment) (probe : Probe) : Nat :=
  past.countP fun moment => moment.event.completed? = some probe

/-- What the flags of the fleet say of a probe; nothing is in flight to a worker that is not
there. -/
def flagged (m : Monitor σ) (probe : Probe) : Bool :=
  m.fleet[probe.worker]?.any fun w => w.awaits probe.kind

omit [WordSource σ] in
theorem flagged_eq {m : Monitor σ} {probe : Probe} {w : Worker}
    (found : m.fleet[probe.worker]? = some w) : flagged m probe = w.awaits probe.kind := by
  simp [flagged, found]

omit [WordSource σ] in
theorem flagged_start (settings : Settings) (size : Nat) (source : σ) (probe : Probe) :
    flagged (.start settings size source) probe = false := by
  unfold flagged
  cases found : (Monitor.start settings size source).fleet[probe.worker]? with
  | none => rfl
  | some w =>
      have sameFleet : (start settings size source).monitor.fleet[probe.worker]? = some w := found
      rw [fresh_worker sameFleet]
      cases probe.kind <;> rfl

omit [WordSource σ] in
theorem arrived_outstanding (s : Watch σ) {probe : Probe} (result : Except FleetError Nat)
    (called : probe ∈ s.calls) (other : Probe) :
    outstanding
      { s with calls := s.calls.erase probe, inbox := s.inbox ++ [⟨probe, result⟩] } other =
        s.outstanding other := by
  have counted : 0 < s.calls.count probe := List.count_pos_iff.mpr called
  by_cases same : probe = other
  · subst same
    simp only [outstanding, List.count_erase_self, List.countP_append, List.countP_singleton,
      decide_true, if_true]
    omega
  · have kept : (s.calls.erase probe).count other = s.calls.count other :=
      List.count_erase_of_ne (Ne.symm same)
    simp [outstanding, kept, same]

/-- What an event sends that completes no probe, it flags. -/
theorem saw_flagged (settings : Settings) (m : Monitor σ) {event : Monitor.Event}
    (completesNone : event.completed? = none) (probe : Probe) :
    (flagged (m.step settings event).monitor probe).toNat =
      (flagged m probe).toNat + (m.step settings event).sent.count probe := by
  obtain ⟨kind, i⟩ := probe
  simp only [flagged, step_sent_count, Monitor.step_fleet_getElem?]
  cases m.fleet[i]? with
  | none => rfl
  | some w => exact Monitor.saw_awaits settings m.archivalDeadline i w kind completesNone

/-- An event that completes a probe sends nothing, and lowers the flag of that probe alone. -/
theorem applied_flagged (settings : Settings) (m : Monitor σ) {event : Monitor.Event} {done : Probe}
    (completes : event.completed? = some done) (probe : Probe) :
    (m.step settings event).sent.count probe = 0 ∧
      flagged (m.step settings event).monitor probe = if done = probe then false else flagged m probe := by
  obtain ⟨kind, i⟩ := probe
  simp only [flagged, step_sent_count, Monitor.step_fleet_getElem?]
  cases m.fleet[i]? with
  | none => exact ⟨rfl, (ite_self false).symm⟩
  | some w =>
      rw [Option.elim_some, Monitor.applied_kindsSent completes]
      exact ⟨rfl, Monitor.applied_awaits kind completes⟩

theorem saw_outstanding (settings : Settings) (s : Watch σ) {event : Monitor.Event}
    (completesNone : event.completed? = none)
    (balanced : ∀ probe, s.outstanding probe = (flagged s.monitor probe).toNat) (probe : Probe) :
    (s.react settings event).outstanding probe =
      (flagged (s.react settings event).monitor probe).toNat := by
  have before := balanced probe
  have raised := saw_flagged settings s.monitor completesNone probe
  rw [react_eq]
  simp only [outstanding, List.count_append] at before ⊢
  omega

theorem applied_outstanding (settings : Settings) (s : Watch σ) {first : Answered}
    {rest : List Answered} (now : Nat) (waiting : s.inbox = first :: rest)
    (balanced : ∀ probe, s.outstanding probe = (flagged s.monitor probe).toNat) (probe : Probe) :
    (react settings { s with inbox := rest } (first.event now)).outstanding probe =
      (flagged (react settings { s with inbox := rest } (first.event now)).monitor probe).toNat := by
  have before := balanced probe
  obtain ⟨nothing, lowered⟩ :=
    applied_flagged settings s.monitor (first.event_completed? now) probe
  rw [react_eq]
  simp only [outstanding, List.count_append, nothing, lowered, waiting, List.countP_cons] at before ⊢
  have atMostOne := Bool.toNat_le (flagged s.monitor probe)
  by_cases same : first.probe = probe
  · simp only [same, decide_true, if_true, Bool.toNat_false] at before ⊢
    omega
  · simp only [same, decide_false, Bool.false_eq_true, if_false] at before ⊢
    omega

/-- The flags of the fleet tell exactly which probes are on their way. -/
theorem Reachable.outstanding_eq {settings : Settings} {size : Nat} {s : Watch σ}
    (reached : Reachable settings size s) :
    ∀ probe, s.outstanding probe = (flagged s.monitor probe).toNat := by
  induction reached with
  | start source =>
      intro probe
      have nothingSent : (Watch.start settings size source).outstanding probe = 0 := rfl
      rw [nothingSent, Watch.start, flagged_start]
      rfl
  | @step s next action _ went balanced =>
      cases moved_of_step? went with
      | @arrived probe result called =>
          -- The probe is still on its way, now back; no flag has changed.
          intro other
          rw [arrived_outstanding s result called other]
          exact balanced other
      | @applied first rest now waiting => exact applied_outstanding settings s now waiting balanced
      | @saw event completesNone => exact saw_outstanding settings s completesNone balanced

theorem Reachable.awaited {settings : Settings} {size : Nat} {s : Watch σ}
    (reached : Reachable settings size s) {probe : Probe}
    (underway : probe ∈ s.calls ∨ probe ∈ s.inbox.map Answered.probe) :
    ∃ w, s.monitor.fleet[probe.worker]? = some w ∧ w.awaits probe.kind = true := by
  have counted : 0 < s.outstanding probe := by
    unfold outstanding
    rcases underway with called | answered
    · have := List.count_pos_iff.mpr called
      omega
    · obtain ⟨a, member, same⟩ := List.mem_map.mp answered
      have : 0 < s.inbox.countP fun a => a.probe = probe :=
        List.countP_pos_iff.mpr ⟨a, member, decide_eq_true same⟩
      omega
  rw [reached.outstanding_eq probe] at counted
  have raised : flagged s.monitor probe = true := by
    cases raised : flagged s.monitor probe with
    | true => rfl
    | false => simp [raised] at counted
  simpa [flagged, Option.any_eq_true] using raised

theorem Reachable.sent_eq {settings : Settings} {size : Nat} {s : Watch σ}
    (reached : Reachable settings size s) (probe : Probe) :
    sentIn s.past probe = appliedIn s.past probe + s.outstanding probe := by
  induction reached with
  | start source => rfl
  | @step s next action _ went ih =>
      cases moved_of_step? went with
      | @arrived answered result called =>
          rw [arrived_outstanding s result called probe]
          exact ih
      | @applied first rest now waiting =>
          have completes := first.event_completed? now
          rw [react_eq]
          simp only [sentIn, appliedIn, outstanding, List.flatMap_cons, List.count_append,
            List.countP_cons, waiting, completes, Option.some.injEq] at ih ⊢
          omega
      | @saw event completesNone =>
          rw [react_eq]
          simp only [sentIn, appliedIn, outstanding, List.flatMap_cons, List.count_append,
            List.countP_cons, completesNone, reduceCtorEq, decide_false, Bool.false_eq_true,
            if_false] at ih ⊢
          omega

/-- A reachable watch goes on in two ways: an answer arrives, which its monitor does not see, or its
monitor sees an event; a probe that the event completes was in flight. -/
theorem Reachable.moved_event {settings : Settings} {size : Nat} {s next : Watch σ}
    (reached : Reachable settings size s) (moved : Moved settings s next) :
    (next.monitor = s.monitor ∧ next.past = s.past) ∨
      ∃ event, next.monitor = (s.monitor.step settings event).monitor ∧
        next.past = ⟨event, (s.monitor.step settings event).sent⟩ :: s.past ∧
        ∀ i w, s.monitor.fleet[i]? = some w → ∀ kind, event.completed? = some ⟨kind, i⟩ →
          w.awaits kind = true := by
  cases moved with
  | arrived called => exact .inl ⟨rfl, rfl⟩
  | @applied first rest now waiting =>
      refine .inr ⟨first.event now, by rw [react_eq], by rw [react_eq], ?_⟩
      -- What is taken from the inbox was on its way, hence awaited.
      intro i w found kind completes
      rw [first.event_completed? now, Option.some.injEq] at completes
      have underway : first.probe ∈ s.inbox.map Answered.probe := by simp [waiting]
      obtain ⟨waitingWorker, foundWaiting, awaits⟩ := reached.awaited (.inr underway)
      rw [completes] at foundWaiting awaits
      cases Option.some.inj (found.symm.trans foundWaiting)
      exact awaits
  | @saw event completesNone =>
      refine .inr ⟨event, by rw [react_eq], by rw [react_eq], ?_⟩
      intro i w found kind completes
      rw [completesNone] at completes
      cases completes

section Record

variable {settings : Settings} {size i : Nat} {s : Watch σ} {w : Worker}

/-- What holds of a worker that has not been probed, and is kept by every event, holds throughout.
The past may be spoken of; an event that completes a probe of the worker finds that probe in
flight. -/
theorem Reachable.record_induction {P : Nat → Worker → List Moment → Prop} (fresh : ∀ i, P i {} [])
    (after : ∀ (deadline i : Nat) (w : Worker) (event : Monitor.Event) (sent : List Probe)
      (past : List Moment), P i w past →
      (∀ kind, event.completed? = some ⟨kind, i⟩ → w.awaits kind = true) →
      (sent.filter (fun probe => probe.worker = i) =
        (Monitor.kindsSent settings deadline i w event).map fun kind => ⟨kind, i⟩) →
      P i (Monitor.workerAfter settings deadline i w event) (⟨event, sent⟩ :: past))
    (reached : Reachable settings size s) (found : s.monitor.fleet[i]? = some w) : P i w s.past := by
  induction reached generalizing w with
  | start source =>
      rw [fresh_worker found]
      exact fresh i
  | @step s next action reached went ih =>
      rcases reached.moved_event (moved_of_step? went) with
        ⟨monitor, samePast⟩ | ⟨event, monitor, grown, awaited⟩
      · rw [samePast]
        exact ih (monitor ▸ found)
      · rw [monitor, Monitor.step_fleet_getElem?] at found
        obtain ⟨before, foundBefore, rfl⟩ := Option.map_eq_some_iff.mp found
        rw [grown]
        refine after _ i before event _ _ (ih foundBefore) (awaited i before foundBefore) ?_
        rw [Monitor.step_sent_filter, foundBefore]
        rfl

/-- The same for a run from a reachable watch: what holds of a worker when the run begins, and is kept
by every event, holds when it ends.  What has been seen since the run began may be spoken of. -/
theorem Reachable.run_induction {P : Worker → List Moment → Prop} (holds : P w [])
    (after : ∀ (deadline : Nat) (w : Worker) (event : Monitor.Event) (sent : List Probe)
      (since : List Moment), P w since →
      (∀ kind, event.completed? = some ⟨kind, i⟩ → w.awaits kind = true) →
      (sent.filter (fun probe => probe.worker = i) =
        (Monitor.kindsSent settings deadline i w event).map fun kind => ⟨kind, i⟩) →
      P (Monitor.workerAfter settings deadline i w event) (⟨event, sent⟩ :: since))
    (reached : Reachable settings size s) (found : s.monitor.fleet[i]? = some w)
    {actions : List Action} {last : Watch σ} (went : s.run? settings actions = some last) :
    ∃ w since, last.monitor.fleet[i]? = some w ∧ last.past = since ++ s.past ∧ P w since := by
  -- The induction is on the actions that are left; behind the first ones there is a past already.
  suffices onward : ∀ (now : Watch σ) (since : List Moment) (w : Worker),
      Reachable settings size now → now.monitor.fleet[i]? = some w → now.past = since ++ s.past →
      P w since → now.run? settings actions = some last →
      ∃ w since, last.monitor.fleet[i]? = some w ∧ last.past = since ++ s.past ∧ P w since from
    onward s [] w reached found rfl holds went
  clear reached found holds went
  induction actions with
  | nil =>
      intro now since w reached found past holds went
      cases Option.some.inj went
      exact ⟨w, since, found, past, holds⟩
  | cons action rest ih =>
      intro now since w reached found past holds went
      obtain ⟨next, first, later⟩ := Option.bind_eq_some_iff.mp went
      rcases reached.moved_event (moved_of_step? first) with
        ⟨monitor, samePast⟩ | ⟨event, monitor, grown, awaited⟩
      · exact ih next since w (reached.step first) (monitor ▸ found) (samePast.trans past) holds later
      · refine ih next (⟨event, (now.monitor.step settings event).sent⟩ :: since) _ (reached.step first)
          (by rw [monitor, Monitor.step_fleet_getElem?, found, Option.map_some])
          (by rw [grown, past, List.cons_append]) ?_ later
        refine after _ w event _ since holds (awaited i w found) ?_
        rw [Monitor.step_sent_filter, found]
        rfl

end Record

/-- For each worker and each kind of probe, the flag says how many probes are on their way: one or
none.  What was sent is on its way or has been applied once, and what is on its way is awaited by
a worker of the fleet. -/
theorem Reachable.inFlight_counts {settings : Settings} {size : Nat} {s : Watch σ}
    (reached : Reachable settings size s) :
    (∀ (i : Nat) (w : Worker), s.monitor.fleet[i]? = some w →
      s.outstanding ⟨.alive, i⟩ = (if w.probeInFlight then 1 else 0) ∧
        s.outstanding ⟨.archival, i⟩ = (if w.archivalInFlight then 1 else 0)) ∧
    (∀ probe, sentIn s.past probe = appliedIn s.past probe + s.outstanding probe) ∧
    (∀ probe, probe ∈ s.calls ∨ probe ∈ s.inbox.map Answered.probe →
      ∃ w, s.monitor.fleet[probe.worker]? = some w ∧ w.awaits probe.kind = true) := by
  refine ⟨?_, reached.sent_eq, fun probe underway => reached.awaited underway⟩
  intro i w found
  have alive := reached.outstanding_eq ⟨.alive, i⟩
  have archival := reached.outstanding_eq ⟨.archival, i⟩
  rw [flagged_eq found] at alive archival
  rw [alive, archival]
  constructor
  · show w.probeInFlight.toNat = _
    cases w.probeInFlight <;> rfl
  · show w.archivalInFlight.toNat = _
    cases w.archivalInFlight <;> rfl

/-- Two workers; one is alive and asked for both kinds of probes again, the answer of the other
one has just arrived. -/
theorem inFlight_counts_two_workers :
    ∃ s : Watch Random.Keystream, Reachable { configPath := "net" } 2 s ∧
      s.outstanding ⟨.alive, 0⟩ = 1 ∧ s.outstanding ⟨.archival, 0⟩ = 1 ∧
      s.outstanding ⟨.alive, 1⟩ = 1 ∧ s.outstanding ⟨.archival, 1⟩ = 0 := by
  have reached : Reachable { configPath := "net" } 2 _ :=
    (Reachable.start (Random.Keystream.ofSeed 7)).run (show run? _ _ [.tick 1000,
      .answer ⟨.alive, 0⟩ (.ok 5), .deliver 1100, .tick 2000,
      .answer ⟨.alive, 1⟩ (.error (.timeout 5000))] = some _ from rfl)
  have counts := (Reachable.inFlight_counts reached).1
  exact ⟨_, reached, (counts 0 _ rfl).1, (counts 0 _ rfl).2, (counts 1 _ rfl).1, (counts 1 _ rfl).2⟩

end Watch

end LiteserverFleet
