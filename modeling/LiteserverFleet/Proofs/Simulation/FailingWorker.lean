import LiteserverFleet.Proofs.Monitor.Backoff
import LiteserverFleet.Proofs.Simulation.Sessions

/-!
# A failing worker in a simulation

All alive-probes of a worker fail after one delay, shorter than a tick.  Whatever the other workers do
and whatever is asked of the fleet, it is sent alive-probes exactly at the times that the backoff tells,
and it is excluded from the time on that the backoff tells (`probes_of_failing_worker`).
-/

set_option autoImplicit false

namespace LiteserverFleet

/-- A behaviour that shows a failure when a delay has passed. -/
def Behaviour.FailsAfter (timeout delay : Nat) (b : Behaviour) : Prop :=
  b.duration timeout = delay ∧ ∃ failure, b.outcome timeout delay = .error failure

/-- An answer in time has to be an error; one that comes too late or never is a failure when the timeout
ends. -/
theorem Behaviour.failsAfter_iff {timeout delay : Nat} {b : Behaviour} :
    b.FailsAfter timeout delay ↔
      (∃ failure, b.latency = some delay ∧ delay ≤ timeout ∧ b.result = .error failure) ∨
        ((∀ time, b.latency = some time → timeout < time) ∧ delay = timeout) := by
  cases latency : b.latency with
  | none =>
      simp only [FailsAfter, duration, outcome, latency]
      simp [eq_comm]
  | some time =>
      simp only [FailsAfter, duration, outcome, latency, Option.elim_some, Option.any_some,
        decide_eq_true_eq, Option.some.injEq, forall_eq']
      by_cases inTime : time ≤ timeout
      · rw [Nat.min_eq_right inTime]
        constructor
        · rintro ⟨rfl, failure, isFailure⟩
          rw [if_pos (Nat.le_refl _)] at isFailure
          exact .inl ⟨failure, rfl, inTime, isFailure⟩
        · rintro (⟨failure, rfl, -, isFailure⟩ | ⟨late, -⟩)
          · exact ⟨rfl, failure, by rw [if_pos (Nat.le_refl _), isFailure]⟩
          · omega
      · have late : timeout < time := Nat.lt_of_not_le inTime
        rw [Nat.min_eq_left (Nat.le_of_lt late)]
        constructor
        · rintro ⟨rfl, -⟩
          exact .inr ⟨late, rfl⟩
        · rintro (⟨failure, rfl, inTime, -⟩ | ⟨-, rfl⟩)
          · omega
          · exact ⟨rfl, _, if_neg inTime⟩

/-- Every behaviour that a script has in store fails after a delay. -/
def Script.FailsAfter (timeout delay : Nat) (script : Script) : Prop :=
  ∀ b ∈ script.take.1 :: script, b.FailsAfter timeout delay

theorem Script.FailsAfter.take {timeout delay : Nat} {script : Script}
    (fails : script.FailsAfter timeout delay) :
    script.take.1.FailsAfter timeout delay ∧ script.take.2.FailsAfter timeout delay := by
  refine ⟨fails _ List.mem_cons_self, ?_⟩
  match script with
  | [] => exact fails
  | [last] => exact fails
  | first :: next :: rest =>
      have others : ∀ b ∈ next :: rest, b.FailsAfter timeout delay := by
        intro b member
        exact fails b (List.mem_cons_of_mem _ (List.mem_cons_of_mem _ member))
      refine List.forall_mem_cons.mpr ⟨?_, others⟩
      cases rest <;> exact others next List.mem_cons_self

/-- A command under which the alive-probes of a worker go on to fail after a delay: the clock does not
jump, and a new script fails, too. -/
def Command.KeepsFailing (timeout delay i : Nat) : Command → Prop
  | .advance _ => False
  | .rescript worker head _ _ => worker = i → ∀ script, head = some script →
      script.FailsAfter timeout delay
  | _ => True

namespace Simulation

/-- What belongs to a worker that fails all its alive-probes, behind a number of ticks. -/
inductive Failing (settings : Settings) (delay i calls ticks : Nat) : Share → Prop where
  | idle {sent : Nat} {w : Worker} {c : Connection}
      (stage : Backoff.Stage settings delay ticks sent false w)
      (fails : c.head.FailsAfter settings.health.probeTimeout delay) (count : c.headCalls = calls + sent) :
      Failing settings delay i calls ticks ⟨w, c, []⟩
  | asked {sent : Nat} {w : Worker} {c : Connection} {b : Behaviour}
      (stage : Backoff.Stage settings delay ticks sent true w)
      (fails : c.head.FailsAfter settings.health.probeTimeout delay) (count : c.headCalls = calls + sent)
      (failing : b.FailsAfter settings.health.probeTimeout delay) :
      Failing settings delay i calls ticks
        ⟨w, c, [.ofProbe ⟨.alive, i⟩ b settings.health.probeTimeout
          (ticks * settings.schedule.tickInterval)]⟩

section Failing

variable {settings : Settings} {delay i calls ticks deadline : Nat} {share : Share}

theorem Failing.complete {c : Completion} (failing : Failing settings delay i calls ticks share)
    (deadline : Nat) (accepted : settings.validate = .ok ()) (pending : c ∈ share.pending) :
    Failing settings delay i calls ticks (share.complete settings deadline i c.due c) := by
  cases failing with
  | idle => cases pending
  | @asked sent w connection b stage fails count failing =>
      rw [List.mem_singleton.mp pending]
      obtain ⟨duration, failure, outcome⟩ := failing
      have failed := stage.fail accepted failure
      have idle := Failing.idle (i := i) failed fails count
      simpa [Share.complete, Completion.event, Completion.result, Completion.ofProbe, duration, outcome,
        Monitor.workerAfter] using idle

/-- A worker that is dead behind a judgement is sent no archival probe on that tick. -/
theorem see_tick_of_dead {now : Nat} {judged : Judgement}
    (isJudged : Health.judge settings.health i now share.record = judged)
    (dead : judged.worker.alive = false) :
    share.see settings deadline i now (.tick now) =
      if judged.verdict = .probe then
        Share.ask i settings.health.probeTimeout now { share with record := judged.worker } .alive
      else { share with record := judged.worker } := by
  have notDue : Archival.isDue judged.worker = false := by simp [Archival.isDue, dead]
  have record : Monitor.workerAfter settings deadline i share.record (.tick now) = judged.worker := by
    simp [Monitor.workerAfter, Monitor.tickWorker, Archival.mark, isJudged, notDue]
  have kinds : Monitor.kindsSent settings deadline i share.record (.tick now) =
      if judged.verdict = .probe then [.alive] else [] := by
    simp [Monitor.kindsSent, isJudged, notDue]
  rw [Share.see, record, kinds]
  split <;> rfl

theorem Failing.tick (failing : Failing settings delay i calls ticks share)
    (accepted : settings.validate = .ok ())
    (alone : ∀ c ∈ share.pending, (ticks + 1) * settings.schedule.tickInterval < c.due)
    (short : delay < settings.schedule.tickInterval) :
    Failing settings delay i calls (ticks + 1)
      (share.see settings deadline i ((ticks + 1) * settings.schedule.tickInterval)
        (.tick ((ticks + 1) * settings.schedule.tickInterval))) := by
  cases failing with
  | @asked sent w c b stage fails count failing =>
      -- The last probe has failed before this tick.
      have late := alone _ List.mem_cons_self
      obtain ⟨duration, -⟩ := failing
      simp only [Completion.ofProbe, duration, Nat.succ_mul] at late
      omega
  | @idle sent w c stage fails count =>
      rcases stage.tick accepted i with ⟨probe, next⟩ | ⟨noProbe, next⟩
      · rw [see_tick_of_dead rfl next.dead, if_pos probe]
        obtain ⟨first, others⟩ := fails.take
        exact .asked next others (congrArg (· + 1) count) first
      · rw [see_tick_of_dead rfl next.dead, if_neg noProbe]
        exact .idle next fails count

theorem Failing.completeImmediate (failing : Failing settings delay i calls ticks share)
    (accepted : settings.validate = .ok ()) :
    Failing settings delay i calls ticks
      ((share.pending.filter (·.isImmediate)).foldl
        (Share.complete settings deadline i (ticks * settings.schedule.tickInterval)) share) := by
  cases failing with
  | idle stage fails count => exact .idle stage fails count
  | @asked sent w connection b stage fails count failing =>
      have asked : Failing settings delay i calls ticks ⟨w, connection, _⟩ :=
        .asked stage fails count failing
      rw [List.filter_singleton, Bool.cond_eq_ite]
      split
      · next immediate =>
        have due := of_decide_eq_true immediate
        have completed := asked.complete deadline accepted List.mem_cons_self
        rw [due] at completed
        exact completed
      · exact asked

theorem Failing.reconnect {connection : Connection} (failing : Failing settings delay i calls ticks share)
    (fails : connection.head.FailsAfter settings.health.probeTimeout delay)
    (sameCalls : connection.headCalls = share.connection.headCalls) :
    Failing settings delay i calls ticks { share with connection } := by
  cases failing with
  | idle stage _ count => exact .idle stage fails (sameCalls.trans count)
  | asked stage _ count failing => exact .asked stage fails (sameCalls.trans count) failing

theorem Failing.fails (failing : Failing settings delay i calls ticks share) :
    share.connection.head.FailsAfter settings.health.probeTimeout delay := by
  cases failing with
  | idle _ fails => exact fails
  | asked _ fails => exact fails

end Failing

/-! ## Runs -/

/-- A simulation with a worker that fails all its alive-probes. -/
def HasFailing (settings : Settings) (delay i calls ticks : Nat) (s : Simulation) : Prop :=
  s.settings = settings ∧ ∃ share, s.share? i = some share ∧ Failing settings delay i calls ticks share

theorem hasFailing_lasting {settings : Settings} {delay i calls : Nat}
    (accepted : settings.validate = .ok ()) (short : delay < settings.schedule.tickInterval) :
    Lasting (HasFailing settings delay i calls) where
  tick := by
    rintro ticks s timely alone ⟨rfl, share, isShare, failing⟩
    refine ⟨(fire_kept s .tick).settings, ?_⟩
    obtain ⟨-, -, pending⟩ := of_share? isShare
    have noneDue : ∀ c ∈ share.pending, (ticks + 1) * s.settings.schedule.tickInterval < c.due := by
      intro c member
      rw [pending] at member
      rw [← timely.nextTick]
      exact alone c (List.mem_of_mem_filter member)
    rw [fire_tick_share? timely i, isShare, Option.map_some]
    refine ⟨_, rfl, ?_⟩
    rw [timely.nextTick]
    exact (failing.tick accepted noneDue short).completeImmediate accepted
  completion := by
    rintro ticks s c timely outstanding ⟨rfl, share, isShare, failing⟩
    refine ⟨(fire_kept s (.completion c)).settings, ?_⟩
    rw [fire_completion_share? timely outstanding i]
    split
    · next same =>
      obtain ⟨-, -, pending⟩ := of_share? isShare
      have isPending : c ∈ share.pending := by
        rw [pending]
        exact List.mem_filter.mpr ⟨outstanding, by simpa using same⟩
      rw [isShare, Option.map_some]
      exact ⟨_, rfl, failing.complete _ accepted isPending⟩
    · exact ⟨share, isShare, failing⟩
  frame := by
    rintro ticks s next same - ⟨rfl, share, isShare, failing⟩
    refine ⟨same.settings, ?_⟩
    obtain ⟨connection, isNext, probing⟩ := same.share? isShare
    have head : connection.probing.head = share.connection.probing.head := by rw [probing]
    have headCalls : connection.probing.headCalls = share.connection.probing.headCalls := by
      rw [probing]
    refine ⟨_, isNext, failing.reconnect ?_ headCalls⟩
    rw [show connection.head = share.connection.head from head]
    exact failing.fails

theorem hasFailing_bears {settings : Settings} {delay i calls : Nat} {command : Command}
    (keeps : command.KeepsFailing settings.health.probeTimeout delay i) :
    Bears (HasFailing settings delay i calls) command := by
  cases command with
  | advance ms => exact keeps
  | rescript worker head lookup call =>
      rintro ticks s ⟨rfl, share, isShare, failing⟩
      obtain ⟨found, linked, pending⟩ := of_share? isShare
      refine ⟨rfl, ?_⟩
      by_cases same : worker = i
      · subst same
        have rescripted : (s.connections.modify worker (·.rescript head lookup call))[worker]? =
            some (share.connection.rescript head lookup call) := by
          simp [linked]
        refine ⟨_, share?_eq_some found rescripted, ?_⟩
        rw [← pending]
        refine failing.reconnect ?_ rfl
        cases head with
        | none => exact failing.fails
        | some script => exact keeps rfl script rfl
      · have untouched : (s.connections.modify worker (·.rescript head lookup call))[i]? =
            some share.connection := by
          simp [linked, same]
        refine ⟨_, share?_eq_some found untouched, ?_⟩
        rw [← pending]
        exact failing
  | _ => trivial

theorem start_hasFailing {settings : Settings} {connections : List Connection} {s : Simulation}
    {i delay : Nat} {c : Connection}
    (setup : s.settings = settings ∧ s.connections = connections ∧ s.outstanding = [] ∧
      s.monitor.fleet = .fresh connections.length)
    (linked : connections[i]? = some c) (fails : c.head.FailsAfter settings.health.probeTimeout delay) :
    HasFailing settings delay i c.headCalls 0 s := by
  obtain ⟨sameSettings, rfl, none, fresh⟩ := setup
  obtain ⟨present, -⟩ := List.getElem?_eq_some_iff.mp linked
  have found : s.monitor.fleet[i]? = some {} := by simp [fresh, Fleet.fresh, present]
  refine ⟨sameSettings, _, share?_eq_some found linked, ?_⟩
  rw [none]
  exact .idle .fresh fails rfl

/-- The alive-probes of a worker that fails all of them are sent exactly at the times of the backoff, and
the worker is marked exactly at its exclusion time, at whatever time a session looks at it. -/
theorem probes_of_failing_worker {settings : Settings} {connections : List Connection} {i delay : Nat}
    {c : Connection} {steps : List (Nat × Command)} (entropy : Random.Keystream)
    (accepted : settings.validate = .ok ()) (linked : connections[i]? = some c)
    (short : delay < settings.schedule.tickInterval)
    (fails : c.head.FailsAfter settings.health.probeTimeout delay)
    (keeps : ∀ step ∈ steps, step.2.KeepsFailing settings.health.probeTimeout delay i) :
    ∃ s, start settings connections entropy = .ok s ∧ ((s.after steps).loop = .running →
      ∃ w next, (s.after steps).monitor.fleet[i]? = some w ∧
        (s.after steps).connections[i]? = some next ∧
        (∀ n, c.headCalls + n < next.headCalls ↔
          ∃ time, Backoff.probeTime? settings delay n = some time ∧ time ≤ (s.after steps).clock) ∧
        (w.isExcluded = true ↔ Backoff.exclusionTime settings delay ≤ (s.after steps).clock) ∧
        (w.isExcluded = true → next.headCalls ≤ c.headCalls + (settings.health.maxFailures + 2) →
          w.excludedSince = some (Backoff.exclusionTime settings delay))) := by
  have nonempty : connections ≠ [] := by
    rintro rfl
    cases linked
  obtain ⟨s, started, rest, sameSettings, -, sameConnections, none, monitor⟩ :=
    start_eq_ok accepted nonempty entropy
  refine ⟨s, started, fun running => ?_⟩
  have begun : HasFailing settings delay i c.headCalls 0 s := by
    refine start_hasFailing ⟨sameSettings, sameConnections, none, ?_⟩ linked fails
    rw [monitor]
    rfl
  have bears : ∀ step ∈ steps, Bears (HasFailing settings delay i c.headCalls) step.2 := by
    intro step member
    exact hasFailing_bears (keeps step member)
  obtain ⟨ticks, restBehind, settings', share, isShare, failing⟩ :=
    (hasFailing_lasting accepted short).after rest begun bears running
  obtain ⟨found, linkedBehind, -⟩ := of_share? isShare
  obtain ⟨sent, asked, stage, count⟩ : ∃ sent asked,
      Backoff.Stage settings delay ticks sent asked share.record ∧
        share.connection.headCalls = c.headCalls + sent := by
    cases failing with
    | idle stage _ count => exact ⟨_, _, stage, count⟩
    | asked stage _ count => exact ⟨_, _, stage, count⟩
  have ticked := restBehind.timely.ticked
  have ahead := restBehind.settled.tick
  rw [restBehind.timely.nextTick] at ahead
  rw [settings'] at ticked ahead
  refine ⟨share.record, share.connection, found, linkedBehind, ?_, ?_, ?_⟩
  · intro n
    rw [← stage.sent_iff_time ticked ahead accepted n, count]
    exact Nat.add_lt_add_iff_left
  · rw [stage.excluded_iff, Backoff.exclusionTick_le_iff ticked ahead]
  · intro isExcluded noRecovery
    exact stage.excludedSince (by omega) (stage.excluded_iff.mp isExcluded)

/-- A worker that refuses every probe after 200 milliseconds, where no failure is tolerated, is probed at
1000, 3000, 6000 and 8000: once more than the ceiling allows, and then behind each cooldown. -/
theorem probes_of_failing_worker_refused :
    let settings : Settings :=
      { configPath := "net"
        health := { maxFailures := 0, retryInterval := 1500, exclusionCooldown := some 2000 } }
    let refused : Connection := { head := [{ latency := some 200, result := .error (.client "down") }] }
    settings.validate = .ok () ∧ refused.head.FailsAfter 5000 200 ∧
      ∃ s, start settings [refused] = .ok s ∧ (s.after [(9000, .wait)]).loop = .running ∧
        ∃ next, (s.after [(9000, .wait)]).connections[0]? = some next ∧ next.headCalls = 4 := by
  intro settings refused
  have accepted : settings.validate = .ok () := rfl
  have linked : [refused][0]? = some refused := rfl
  have fails : refused.head.FailsAfter 5000 200 := by
    intro b member
    obtain rfl : b = ⟨some 200, .error (.client "down")⟩ := by simpa [refused, Script.take] using member
    exact ⟨rfl, _, rfl⟩
  have keeps : ∀ step ∈ [((9000 : Nat), Command.wait)], step.2.KeepsFailing 5000 200 0 := by
    simp [Command.KeepsFailing]
  obtain ⟨s, started, probes⟩ := probes_of_failing_worker (.ofSeed 0) accepted linked (by decide) fails keeps
  refine ⟨accepted, fails, s, started, ?_⟩
  have running : (s.after [(9000, .wait)]).loop = .running := by
    cases started
    decide +kernel
  have clock : (s.after [(9000, .wait)]).clock = 9000 := by
    cases started
    rfl
  obtain ⟨w, next, -, isNext, sent, -⟩ := probes running
  rw [clock] at sent
  have fourth : 0 + 3 < next.headCalls := by
    have isTime : Backoff.probeTime? settings 200 3 = some 8000 := by decide +kernel
    exact (sent 3).mpr ⟨8000, isTime, by decide⟩
  have noFifth : ¬ 0 + 4 < next.headCalls := by
    have isTime : Backoff.probeTime? settings 200 4 = some 10000 := by decide +kernel
    rw [sent 4, isTime]
    rintro ⟨time, same, reached⟩
    cases Option.some.inj same
    exact absurd reached (by decide)
  exact ⟨running, next, isNext, by omega⟩

end Simulation

end LiteserverFleet
