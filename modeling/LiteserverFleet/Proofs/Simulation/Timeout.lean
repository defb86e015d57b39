import LiteserverFleet.Proofs.Monitor.InFlight
import LiteserverFleet.Proofs.Simulation.Sessions

/-!
# Timeouts

The probes that a simulation waits for are those that the flags of its fleet say are in flight, one each
(`Tracked`), and each of them is complete when its timeout ends at the latest.  So, unless the clock
jumps, no flag is older than a timeout; and a probe whose answer takes longer, or never comes, has failed
just when its timeout ends (`inFlight_within_timeout`).
-/

set_option autoImplicit false

namespace LiteserverFleet

namespace Behaviour

/-- The answer takes longer than a timeout, or never comes. -/
def Exceeds (b : Behaviour) (timeout : Nat) : Prop :=
  ∀ latency, b.latency = some latency → timeout < latency

variable {b : Behaviour} {timeout : Nat}

theorem duration_le (b : Behaviour) (timeout : Nat) : b.duration timeout ≤ timeout := by
  unfold duration
  cases b.latency with
  | none => exact Nat.le_refl timeout
  | some latency => exact Nat.min_le_left timeout latency

theorem Exceeds.duration_eq (exceeds : b.Exceeds timeout) : b.duration timeout = timeout := by
  unfold duration
  cases slow : b.latency with
  | none => rfl
  | some latency => exact Nat.min_eq_left (Nat.le_of_lt (exceeds latency slow))

theorem Exceeds.outcome_eq (exceeds : b.Exceeds timeout) :
    b.outcome timeout timeout = .error (.timeout timeout) := by
  apply if_neg
  rw [Option.any_eq_true]
  rintro ⟨latency, slow, answered⟩
  exact Nat.not_le_of_lt (exceeds latency slow) (of_decide_eq_true answered)

end Behaviour

/-- What the monitor sees of a probe whose timeout has ended at a time. -/
def Probe.timedOut (probe : Probe) (timeout now : Nat) : Monitor.Event :=
  match probe.kind with
  | .alive => .aliveCompleted probe.worker now (.error (.timeout timeout))
  | .archival => .archivalCompleted probe.worker false

/-- A worker whose probe of a kind has failed at a time. -/
def Worker.failed (settings : HealthSettings) (now : Nat) (w : Worker) : ProbeKind → Worker
  | .alive =>
      { w with
        probeInFlight := false, alive := false, retryAt := some (now + settings.retryInterval) }
  | .archival => { w with archivalInFlight := false, archival := false }

namespace Completion

theorem event_completed? (c : Completion) (timeout now : Nat) :
    (c.event timeout now).completed? = some c.probe := by
  obtain ⟨⟨kind, worker⟩, sentAt, due, behaviour⟩ := c
  cases kind <;> rfl

/-- A completion whose answer takes too long is applied as a timeout. -/
theorem event_of_exceeds {c : Completion} {timeout : Nat} (exceeds : c.behaviour.Exceeds timeout) :
    c.event timeout (c.sentAt + timeout) = c.probe.timedOut timeout (c.sentAt + timeout) := by
  have result : c.result timeout (c.sentAt + timeout) = .error (.timeout timeout) := by
    rw [Completion.result, Nat.add_sub_cancel_left]
    exact exceeds.outcome_eq
  unfold event Probe.timedOut
  rw [result]
  cases c.probe.kind <;> rfl

end Completion

namespace Simulation

open Watch (flagged)

/-- The completions to come are those of the probes that the fleet has in flight, one each, and each of
them comes when its answer is there or its timeout ends. -/
structure Tracked (settings : Settings) (s : Simulation) : Prop where
  sameSettings : s.settings = settings
  flags : ∀ probe, (s.outstanding.map Completion.probe).count probe = (flagged s.monitor probe).toNat
  due : ∀ c ∈ s.outstanding,
    c.due = c.sentAt + c.behaviour.duration settings.health.probeTimeout

/-! ## One step -/

theorem send_outstanding {s : Simulation} {probe : Probe} (linked : probe.worker < s.connections.length) :
    ∃ c, (s.send probe).outstanding = s.outstanding ++ [c] ∧ c.probe = probe ∧
      c.due = c.sentAt + c.behaviour.duration s.settings.health.probeTimeout := by
  obtain ⟨connection, isConnection⟩ : ∃ connection, s.connections[probe.worker]? = some connection :=
    ⟨_, List.getElem?_eq_getElem linked⟩
  refine ⟨.ofProbe probe (connection.answerProbe probe.kind).1 s.settings.health.probeTimeout s.clock,
    ?_, rfl, rfl⟩
  simp only [send, isConnection]

theorem sends_outstanding (sent : List Probe) (s : Simulation)
    (linked : ∀ probe ∈ sent, probe.worker < s.connections.length) :
    ∃ new, (sent.foldl send s).outstanding = s.outstanding ++ new ∧ new.map Completion.probe = sent ∧
      ∀ c ∈ new, c.due = c.sentAt + c.behaviour.duration s.settings.health.probeTimeout := by
  induction sent generalizing s with
  | nil => exact ⟨[], (List.append_nil _).symm, rfl, nofun⟩
  | cons probe rest ih =>
      obtain ⟨connections, outstanding, sentOne, sameLength, -⟩ := send_spec s probe
      have settings : (s.send probe).settings = s.settings := by rw [sentOne]
      have length : (s.send probe).connections.length = s.connections.length := by
        rw [sentOne]
        exact sameLength
      obtain ⟨linkedFirst, linkedRest⟩ := List.forall_mem_cons.mp linked
      obtain ⟨c, first, isProbe, dueFirst⟩ := send_outstanding linkedFirst
      obtain ⟨new, all, probes, due⟩ := ih (s.send probe) (length.symm ▸ linkedRest)
      rw [settings] at due
      refine ⟨c :: new, ?_, ?_, List.forall_mem_cons.mpr ⟨dueFirst, due⟩⟩
      · rw [List.foldl_cons, all, first, List.append_assoc, List.singleton_append]
      · rw [List.map_cons, isProbe, probes]

section Step

variable {settings : Settings} {ticks : Nat} {s : Simulation} {c : Completion}

theorem react_outstanding (event : Monitor.Event)
    (sizes : s.monitor.fleet.length = s.connections.length) :
    ∃ new, (s.react event).1.outstanding = s.outstanding ++ new ∧
      new.map Completion.probe = (s.monitor.step s.settings event).sent ∧
      ∀ c ∈ new, c.due = c.sentAt + c.behaviour.duration s.settings.health.probeTimeout :=
  sends_outstanding (s.monitor.step s.settings event).sent
    { s with
      monitor := (s.monitor.step s.settings event).monitor
      reported := (s.monitor.step s.settings event).notices.reverse ++ s.reported }
    fun _ member => sizes ▸ Watch.step_sent_inRange s.settings s.monitor event member

theorem Tracked.react (tracked : Tracked settings s) {event : Monitor.Event}
    (completesNone : event.completed? = none)
    (sizes : s.monitor.fleet.length = s.connections.length) : Tracked settings (s.react event).1 := by
  obtain ⟨rfl, flags, due⟩ := tracked
  obtain ⟨new, grown, probes, dueNew⟩ := react_outstanding event sizes
  obtain ⟨connections, outstanding, reported, reacted, -⟩ := react_spec s event
  refine ⟨(react_kept s event).settings, ?_, ?_⟩
  · intro probe
    have raised := Watch.saw_flagged s.settings s.monitor completesNone probe
    rw [grown, List.map_append, List.count_append, probes, flags, reacted, raised]
  · intro c member
    rw [grown] at member
    rcases List.mem_append.mp member with before | sentNow
    · exact due c before
    · exact dueNew c sentNow

/-- There is one completion of each probe at most. -/
theorem Tracked.only (tracked : Tracked settings s) (outstanding : c ∈ s.outstanding) :
    s.outstanding.filter (fun d => d.probe = c.probe) = [c] := by
  have atMostOne : (s.outstanding.filter fun d => d.probe = c.probe).length ≤ 1 := by
    have counted : (s.outstanding.filter fun d => d.probe = c.probe).length =
        (s.outstanding.map Completion.probe).count c.probe := by
      rw [List.count_eq_countP, List.countP_map, ← List.countP_eq_length_filter]
      apply List.countP_congr
      intro d _
      simp
    rw [counted, tracked.flags]
    exact Bool.toNat_le _
  have member : c ∈ s.outstanding.filter fun d => d.probe = c.probe :=
    List.mem_filter.mpr ⟨outstanding, decide_eq_true rfl⟩
  cases isFilter : s.outstanding.filter fun d => d.probe = c.probe with
  | nil => simp [isFilter] at member
  | cons d others =>
      rw [isFilter] at atMostOne member
      have nothing : others = [] := List.length_eq_zero_iff.mp (by simpa using atMostOne)
      rw [nothing] at member ⊢
      rw [List.mem_singleton.mp member]

theorem Tracked.eq_of_probe (tracked : Tracked settings s) {d : Completion}
    (outstanding : c ∈ s.outstanding) (other : d ∈ s.outstanding) (same : d.probe = c.probe) : d = c := by
  have member : d ∈ s.outstanding.filter fun e => e.probe = c.probe :=
    List.mem_filter.mpr ⟨other, decide_eq_true same⟩
  rw [tracked.only outstanding] at member
  exact List.mem_singleton.mp member

theorem Tracked.fireCompletion (tracked : Tracked settings s) (outstanding : c ∈ s.outstanding) :
    Tracked settings (s.fireCompletion c) := by
  obtain ⟨rfl, flags, due⟩ := tracked
  obtain ⟨reported, fired⟩ := fireCompletion_eq s c
  have erased : (s.outstanding.eraseP fun d => d.probe = c.probe).map Completion.probe =
      (s.outstanding.map Completion.probe).erase c.probe := by
    rw [List.erase_eq_eraseP, List.eraseP_map]
    congr 2
    funext d
    rw [Function.comp_apply, beq_eq_decide]
    exact decide_eq_decide.mpr eq_comm
  rw [fired]
  refine ⟨rfl, ?_, fun d member => due d (List.mem_of_mem_eraseP member)⟩
  intro probe
  have before := flags probe
  have lowered := (Watch.applied_flagged s.settings s.monitor
    (c.event_completed? s.settings.health.probeTimeout (max s.clock c.due)) probe).2
  simp only [erased, lowered]
  by_cases same : c.probe = probe
  · -- It was the only completion of that probe.
    have counted : 0 < (s.outstanding.map Completion.probe).count probe :=
      List.count_pos_iff.mpr (same ▸ List.mem_map_of_mem outstanding)
    have atMostOne := Bool.toNat_le (flagged s.monitor probe)
    rw [if_pos same, same, List.count_erase_self]
    show _ = 0
    omega
  · rw [if_neg same, List.count_erase_of_ne (Ne.symm same), before]

theorem sublist_fireCompletion {rest : List Completion} (due : (c :: rest).Sublist s.outstanding) :
    rest.Sublist (s.fireCompletion c).outstanding := by
  obtain ⟨reported, fired⟩ := fireCompletion_eq s c
  rw [fired]
  have erased := due.eraseP (p := fun d => decide (d.probe = c.probe))
  simpa using erased

theorem Tracked.completions (tracked : Tracked settings s) {due : List Completion}
    (outstanding : due.Sublist s.outstanding) : Tracked settings (due.foldl Simulation.fireCompletion s) := by
  induction due generalizing s with
  | nil => exact tracked
  | cons c rest ih =>
      have member : c ∈ s.outstanding := outstanding.subset List.mem_cons_self
      exact ih (tracked.fireCompletion member) (sublist_fireCompletion outstanding)

theorem Tracked.fireTick (tracked : Tracked settings s)
    (sizes : s.monitor.fleet.length = s.connections.length) : Tracked settings s.fireTick := by
  have ticking : Tracked settings
      { s with
        clock := max s.clock s.nextTick
        nextTick := tickAfter s.settings.schedule.tickInterval s.nextTick (max s.clock s.nextTick) } :=
    ⟨tracked.sameSettings, tracked.flags, tracked.due⟩
  exact ticking.react rfl sizes

theorem Tracked.fire (tracked : Tracked settings s) (timely : Timely ticks s) {due : Nat}
    {occurrence : Occurrence} (next : Next s due occurrence) : Tracked settings (s.fire occurrence) := by
  cases next with
  | tick => exact (tracked.fireTick timely.sizes).completions List.filter_sublist
  | completion outstanding => exact tracked.fireCompletion outstanding

/-! ## What is to come stays so -/

theorem Tracked.stays_completion (tracked : Tracked settings s) {d : Completion}
    (outstanding : c ∈ s.outstanding) (fired : d ∈ s.outstanding) (other : c ≠ d) :
    c ∈ (s.fireCompletion d).outstanding := by
  obtain ⟨reported, equation⟩ := fireCompletion_eq s d
  rw [equation]
  have otherProbe : c.probe ≠ d.probe := fun same => other (tracked.eq_of_probe fired outstanding same)
  exact (List.mem_eraseP_of_neg (by simpa using otherProbe)).mpr outstanding

theorem Tracked.stays_completions (tracked : Tracked settings s) {due : List Completion}
    (fired : due.Sublist s.outstanding) (outstanding : c ∈ s.outstanding) (others : c ∉ due) :
    c ∈ (due.foldl Simulation.fireCompletion s).outstanding := by
  induction due generalizing s with
  | nil => exact outstanding
  | cons d rest ih =>
      have other : c ≠ d := List.ne_of_not_mem_cons others
      have member : d ∈ s.outstanding := fired.subset List.mem_cons_self
      exact ih (tracked.fireCompletion member) (sublist_fireCompletion fired)
        (tracked.stays_completion outstanding member other) (List.not_mem_of_not_mem_cons others)

theorem fireTick_outstanding (sizes : s.monitor.fleet.length = s.connections.length) :
    ∃ new, s.fireTick.outstanding = s.outstanding ++ new := by
  obtain ⟨new, grown, -⟩ := react_outstanding
    (s := { s with
      clock := max s.clock s.nextTick
      nextTick := tickAfter s.settings.schedule.tickInterval s.nextTick (max s.clock s.nextTick) })
    (.tick (max s.clock s.nextTick)) sizes
  exact ⟨new, grown⟩

/-- As long as nothing is overdue, only its own completion takes a probe from what is to come. -/
theorem Tracked.stays (tracked : Tracked settings s) (timely : Timely ticks s) {due : Nat}
    {occurrence : Occurrence} (next : Next s due occurrence) (outstanding : c ∈ s.outstanding)
    (other : occurrence ≠ .completion c) : c ∈ (s.fire occurrence).outstanding := by
  cases next with
  | tick alone =>
      obtain ⟨new, grown⟩ := fireTick_outstanding timely.sizes
      have member : c ∈ s.fireTick.outstanding := by
        rw [grown]
        exact List.mem_append_left new outstanding
      have notImmediate : c ∉ s.fireTick.outstanding.filter (·.isImmediate) := by
        intro immediate
        have atOnce : c.due = c.sentAt := of_decide_eq_true (List.mem_filter.mp immediate).2
        have late := alone c outstanding
        have sent := timely.sent c outstanding
        have ahead := timely.tickAhead
        omega
      exact (tracked.fireTick timely.sizes).stays_completions List.filter_sublist member notImmediate
  | @completion d fired =>
      refine tracked.stays_completion outstanding fired fun same => ?_
      exact other (congrArg Occurrence.completion same.symm)

end Step

/-! ## Settling -/

/-- A simulation that is running, in time, and tracked. -/
structure Live (settings : Settings) (ticks : Nat) (s : Simulation) : Prop where
  timely : Timely ticks s
  tracked : Tracked settings s
  running : s.loop = .running

section Settling

variable {settings : Settings} {ticks due time : Nat} {s : Simulation} {c : Completion}
  {occurrence : Occurrence}

theorem Live.fire (live : Live settings ticks s) (next : Next s due occurrence) :
    ∃ ticks, Live settings ticks (s.fire occurrence) := by
  have tracked := live.tracked.fire live.timely next
  have running := (fire_kept s occurrence).loop.trans live.running
  cases next with
  | tick alone => exact ⟨ticks + 1, live.timely.fire_tick alone, tracked, running⟩
  | completion outstanding inTime first =>
      exact ⟨ticks, live.timely.fire_completion outstanding inTime first, tracked, running⟩

theorem Live.settling (live : Live settings ticks s) (fuel time : Nat) :
    ∃ ticks, Live settings ticks (settleWithin fuel time s) := by
  refine settleWithin_induction (P := fun s => ∃ ticks, Live settings ticks s) fuel ⟨ticks, live⟩ ?_
  rintro s due occurrence ⟨ticks, live⟩ - next -
  exact live.fire next

theorem exists_next (running : s.loop = .running) : ∃ due occurrence, s.next? = some (due, occurrence) := by
  simp only [next?, if_pos running]
  split
  · split
    · exact ⟨_, _, rfl⟩
    · exact ⟨_, _, rfl⟩
  · exact ⟨_, _, rfl⟩

theorem settleWithin_of_next (isNext : s.next? = some (due, occurrence)) (reached : due ≤ time)
    (fuel : Nat) : settleWithin (fuel + 1) time s = settleWithin fuel time (s.fire occurrence) := by
  simp only [settleWithin, isNext, if_pos reached]

theorem settleWithin_succ (fuel time : Nat) (s : Simulation) :
    settleWithin (fuel + 1) time s = settleWithin 1 time (settleWithin fuel time s) := by
  induction fuel generalizing s with
  | zero => rfl
  | succ fuel ih =>
      cases isNext : s.next? with
      | none => simp only [settleWithin, isNext]
      | some next =>
          obtain ⟨due, occurrence⟩ := next
          by_cases reached : due ≤ time
          · rw [settleWithin_of_next isNext reached, settleWithin_of_next isNext reached, ih]
          · simp only [settleWithin, isNext, if_neg reached]

/-- Settling to a time at which a completion is due passes through the moment of that completion. -/
theorem Live.reaches {later : Nat} (live : Live settings ticks s) (outstanding : c ∈ s.outstanding)
    (reached : c.due ≤ later) :
    ∃ fuel, (∃ ticks, Live settings ticks (settleWithin fuel later s)) ∧
      c ∈ (settleWithin fuel later s).outstanding ∧
      (settleWithin fuel later s).next? = some (c.due, .completion c) := by
  -- The induction is on how much can happen until then.
  induction bound : s.occurrenceBound later using Nat.strongRecOn generalizing ticks s with
  | _ bound ih =>
      obtain ⟨due, occurrence, isNext⟩ := exists_next live.running
      obtain ⟨-, next⟩ := next_of_next? isNext
      by_cases isIt : occurrence = .completion c
      · rw [isIt] at isNext next
        cases next with
        | completion => exact ⟨0, ⟨ticks, live⟩, outstanding, isNext⟩
      · have inTime : due ≤ c.due := by
          cases next with
          | tick alone => exact Nat.le_of_lt (alone c outstanding)
          | completion _ _ first => exact first c outstanding
        have soon := Nat.le_trans inTime reached
        obtain ⟨ticks, liveNext⟩ := live.fire next
        have stays := live.tracked.stays live.timely next outstanding isIt
        have fewer := live.timely.occurrenceBound_fire next soon
        obtain ⟨fuel, found⟩ := ih _ (bound ▸ fewer) liveNext stays rfl
        refine ⟨fuel + 1, ?_⟩
        rw [settleWithin_of_next isNext soon]
        exact found

end Settling

/-! ## Sessions -/

/-- A probe times out: its completion comes just when its timeout ends, and the monitor sees a failure. -/
structure TimesOut (settings : Settings) (c : Completion) (before behind : Simulation) : Prop where
  next : before.next? = some (c.sentAt + settings.health.probeTimeout, .completion c)
  fired : behind = before.fire (.completion c)
  clock : behind.clock = c.sentAt + settings.health.probeTimeout
  seen : behind.monitor = (before.monitor.step settings (c.probe.timedOut
    settings.health.probeTimeout (c.sentAt + settings.health.probeTimeout))).monitor
  failed : ∃ w, before.monitor.fleet[c.probe.worker]? = some w ∧ w.awaits c.probe.kind = true ∧
    behind.monitor.fleet[c.probe.worker]? = some
      (w.failed settings.health (c.sentAt + settings.health.probeTimeout) c.probe.kind)

section Lasting

variable {settings : Settings} {s : Simulation}

theorem Tracked.reconnect (tracked : Tracked settings s) (connections : List Connection) :
    Tracked settings { s with connections } :=
  ⟨tracked.sameSettings, tracked.flags, tracked.due⟩

theorem Tracked.frame {next : Simulation} (tracked : Tracked settings s) (same : SameProbes s next) :
    Tracked settings next := by
  refine ⟨same.settings.trans tracked.sameSettings, ?_, ?_⟩
  · intro probe
    rw [same.outstanding, tracked.flags probe, flagged, flagged, same.fleet]
  · rw [same.outstanding]
    exact tracked.due

theorem tracked_lasting (settings : Settings) : Lasting fun _ s => Tracked settings s where
  tick timely alone tracked := tracked.fire timely (.tick alone)
  completion _ outstanding tracked := tracked.fireCompletion outstanding
  frame same _ tracked := tracked.frame same

/-- A completion is to come until it is due. -/
theorem stays_lasting (settings : Settings) (c : Completion) :
    Lasting fun _ s => Tracked settings s ∧ (c ∈ s.outstanding ∨ c.due ≤ s.clock) where
  tick := by
    rintro ticks s timely alone ⟨tracked, present⟩
    refine ⟨tracked.fire timely (.tick alone), ?_⟩
    rw [timely.clock_fire (.tick alone)]
    rcases present with outstanding | past
    · exact .inl (tracked.stays timely (.tick alone) outstanding nofun)
    · exact .inr (Nat.le_trans past timely.tickAhead)
  completion := by
    rintro ticks s d timely fired ⟨tracked, present⟩
    obtain ⟨monitor, reported, equation, -⟩ := fire_completion_spec timely fired
    have clock : (s.fire (.completion d)).clock = d.due := by rw [equation]
    refine ⟨tracked.fireCompletion fired, ?_⟩
    rw [clock]
    rcases present with outstanding | past
    · by_cases same : c = d
      · exact .inr (Nat.le_of_eq (congrArg Completion.due same))
      · exact .inl (tracked.stays_completion outstanding fired same)
    · exact .inr (Nat.le_trans past (timely.ahead d fired))
  frame := by
    rintro ticks s next same later ⟨tracked, present⟩
    refine ⟨tracked.frame same, ?_⟩
    rw [same.outstanding]
    exact present.imp_right fun past => Nat.le_trans past later

end Lasting

section Live

variable {settings : Settings} {ticks later : Nat} {s : Simulation} {c : Completion}

theorem Live.inFlight (live : Live settings ticks s) {i : Nat} {w : Worker} {kind : ProbeKind}
    (found : s.monitor.fleet[i]? = some w) (awaits : w.awaits kind = true) :
    ∃ c, s.outstanding.filter (fun d => d.probe = ⟨kind, i⟩) = [c] ∧ c.sentAt ≤ s.clock ∧
      s.clock ≤ c.sentAt + settings.health.probeTimeout := by
  have flag := live.tracked.flags ⟨kind, i⟩
  rw [Watch.flagged_eq found, awaits] at flag
  have present : ⟨kind, i⟩ ∈ s.outstanding.map Completion.probe :=
    List.count_pos_iff.mp (Nat.lt_of_lt_of_eq Nat.one_pos flag.symm)
  obtain ⟨c, outstanding, isProbe⟩ := List.mem_map.mp present
  have only := live.tracked.only outstanding
  rw [isProbe] at only
  have due := live.tracked.due c outstanding
  have bounded := c.behaviour.duration_le settings.health.probeTimeout
  have ahead := live.timely.ahead c outstanding
  exact ⟨c, only, live.timely.sent c outstanding, by omega⟩

theorem Live.awaited (live : Live settings ticks s) (outstanding : c ∈ s.outstanding) :
    ∃ w, s.monitor.fleet[c.probe.worker]? = some w ∧ w.awaits c.probe.kind = true := by
  have counted : 0 < (s.outstanding.map Completion.probe).count c.probe :=
    List.count_pos_iff.mpr (List.mem_map_of_mem outstanding)
  rw [live.tracked.flags] at counted
  have raised : flagged s.monitor c.probe = true := by
    cases raised : flagged s.monitor c.probe with
    | true => rfl
    | false => simp [raised] at counted
  simpa [flagged, Option.any_eq_true] using raised

theorem workerAfter_timedOut (settings : Settings) (deadline timeout now : Nat) (w : Worker)
    (probe : Probe) :
    Monitor.workerAfter settings deadline probe.worker w (probe.timedOut timeout now) =
      w.failed settings.health now probe.kind := by
  obtain ⟨kind, worker⟩ := probe
  cases kind with
  | alive => exact if_pos rfl
  | archival => exact if_pos rfl

theorem Live.timesOut_of_next (live : Live settings ticks s) (outstanding : c ∈ s.outstanding)
    (exceeds : c.behaviour.Exceeds settings.health.probeTimeout)
    (isNext : s.next? = some (c.sentAt + settings.health.probeTimeout, .completion c)) :
    TimesOut settings c s (s.fire (.completion c)) := by
  obtain ⟨reported, fired⟩ := fireCompletion_eq s c
  have due : c.due = c.sentAt + settings.health.probeTimeout := by
    rw [live.tracked.due c outstanding, exceeds.duration_eq]
  have now : max s.clock c.due = c.sentAt + settings.health.probeTimeout := by
    rw [← due]
    exact Nat.max_eq_right (live.timely.ahead c outstanding)
  have seen : (s.fire (.completion c)).monitor = (s.monitor.step settings (c.probe.timedOut
      settings.health.probeTimeout (c.sentAt + settings.health.probeTimeout))).monitor := by
    rw [Simulation.fire, fired, now, live.tracked.sameSettings, Completion.event_of_exceeds exceeds]
  obtain ⟨w, found, awaits⟩ := live.awaited outstanding
  refine ⟨isNext, rfl, ?_, seen, w, found, awaits, ?_⟩
  · rw [Simulation.fire, fired, now]
  · rw [seen, Monitor.step_fleet_getElem?, found, Option.map_some, workerAfter_timedOut]

theorem Live.times_out (live : Live settings ticks s) (outstanding : c ∈ s.outstanding)
    (exceeds : c.behaviour.Exceeds settings.health.probeTimeout)
    (reached : c.sentAt + settings.health.probeTimeout ≤ later) :
    ∃ fuel, TimesOut settings c (settleWithin fuel later s) (settleWithin (fuel + 1) later s) := by
  have due : c.due = c.sentAt + settings.health.probeTimeout := by
    rw [live.tracked.due c outstanding, exceeds.duration_eq]
  rw [← due] at reached
  obtain ⟨fuel, ⟨ticks, liveBefore⟩, stillOutstanding, isNext⟩ := live.reaches outstanding reached
  have fired : settleWithin (fuel + 1) later s = (settleWithin fuel later s).fire (.completion c) := by
    rw [settleWithin_succ, settleWithin_of_next isNext reached]
    rfl
  rw [due] at isNext
  refine ⟨fuel, ?_⟩
  rw [fired]
  exact liveBefore.timesOut_of_next stillOutstanding exceeds isNext

end Live

/-- Behind any session whose clock does not jump, and at any moment of the time that passes next, as long
as the loop runs: a probe that a flag says is in flight is the one completion to come of that probe, and was
sent a timeout ago at most.  One whose answer takes longer, or never comes, is in flight until its timeout ends
and has failed just then: a worker is dead and has a retry time, or is not archival. -/
theorem inFlight_within_timeout {settings : Settings} {connections : List Connection} {entropy : Random.Keystream}
    {first : Simulation} {steps : List (Nat × Command)} (started : start settings connections entropy = .ok first)
    (steady : ∀ step ∈ steps, ∀ ms, step.2 ≠ .advance ms)
    (running : (first.after steps).loop = .running) :
    (∀ fuel time, let s := settleWithin fuel time (first.after steps)
      (∀ i w kind, s.monitor.fleet[i]? = some w → w.awaits kind = true →
        ∃ c, s.outstanding.filter (fun d => d.probe = ⟨kind, i⟩) = [c] ∧ c.sentAt ≤ s.clock ∧
          s.clock ≤ c.sentAt + settings.health.probeTimeout) ∧
      ∀ c ∈ s.outstanding, c.behaviour.Exceeds settings.health.probeTimeout →
        ∀ later, c.sentAt + settings.health.probeTimeout ≤ later → ∃ more,
          TimesOut settings c (settleWithin more later s) (settleWithin (more + 1) later s)) ∧
    ∀ c ∈ (first.after steps).outstanding, c.behaviour.Exceeds settings.health.probeTimeout →
      ∀ others : List (Nat × Command), (∀ step ∈ others, ∀ ms, step.2 ≠ .advance ms) →
        let s := (first.after steps).after others
        s.loop = .running → s.clock < c.sentAt + settings.health.probeTimeout → c ∈ s.outstanding := by
  obtain ⟨accepted, nonempty⟩ := accepted_of_start started
  obtain ⟨s, alsoStarted, rest, sameSettings, -, -, nothing, monitor⟩ := start_eq_ok accepted nonempty entropy
  cases Except.ok.inj (started.symm.trans alsoStarted)
  have begun : Tracked settings first := by
    refine ⟨sameSettings, ?_, by simp [nothing]⟩
    intro probe
    rw [nothing, monitor, Watch.flagged_start]
    rfl
  obtain ⟨ticks, restBehind, tracked⟩ := (tracked_lasting settings).after rest begun
    (fun step member => bears_of_unread (steady step member) fun _ _ connections tracked =>
      tracked.reconnect connections) running
  have live : Live settings ticks (first.after steps) := ⟨restBehind.timely, tracked, running⟩
  constructor
  · intro fuel time
    obtain ⟨ticks, live⟩ := live.settling fuel time
    refine ⟨fun i w kind found awaits => live.inFlight found awaits, ?_⟩
    intro c outstanding exceeds later reached
    exact live.times_out outstanding exceeds reached
  · intro c outstanding exceeds others steadyOthers _ stillRunning early
    obtain ⟨-, -, -, present⟩ := (stays_lasting settings c).after restBehind ⟨tracked, .inl outstanding⟩
      (fun step member => bears_of_unread (steadyOthers step member) fun _ _ connections holds =>
        ⟨holds.1.reconnect connections, holds.2⟩) stillRunning
    rcases present with still | past
    · exact still
    · rw [tracked.due c outstanding, exceeds.duration_eq] at past
      exact absurd early (Nat.not_lt_of_le past)

/-- A worker that never answers: its first alive-probe, sent at 1000, has failed at 6000. -/
theorem inFlight_within_timeout_silent :
    let silent : Connection := { head := [{ latency := none, result := .error .noLiteservers }] }
    ∃ first, start { configPath := "net" } [silent] = .ok first ∧
      (first.after [(1500, .wait)]).loop = .running ∧
      ∃ c ∈ (first.after [(1500, .wait)]).outstanding, c.probe = ⟨.alive, 0⟩ ∧ c.sentAt = 1000 ∧
        ∃ fuel, TimesOut { configPath := "net" } c
          (settleWithin fuel 6000 (first.after [(1500, .wait)]))
          (settleWithin (fuel + 1) 6000 (first.after [(1500, .wait)])) := by
  have started : start { configPath := "net" }
      [{ head := [{ latency := none, result := .error .noLiteservers }] }] = .ok _ := rfl
  have steady : ∀ step ∈ [((1500 : Nat), Command.wait)], ∀ ms, step.2 ≠ .advance ms := by simp
  obtain ⟨timeouts, -⟩ := inFlight_within_timeout started steady (by decide +kernel)
  obtain ⟨-, late⟩ := timeouts 0 0
  have exceeds : Behaviour.Exceeds ⟨none, .error .noLiteservers⟩ 5000 := nofun
  obtain ⟨fuel, timesOut⟩ := late ⟨⟨.alive, 0⟩, 1000, 6000, _⟩ List.mem_cons_self exceeds 6000
    (Nat.le_refl 6000)
  exact ⟨_, started, by decide +kernel, _, List.mem_cons_self, rfl, rfl, fuel, timesOut⟩

end Simulation

end LiteserverFleet
