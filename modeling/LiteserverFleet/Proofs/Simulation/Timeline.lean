import LiteserverFleet.Proofs.Simulation.Share

/-!
# Simulated time

As long as the clock does not jump, the ticks of a simulation come at the multiples of the tick
interval and nothing is ever overdue: `Timely`.  Settling at a time leaves nothing due up to that time
(`settle_settled`), as the bound on the number of occurrences is never reached; and what every
occurrence preserves, settling preserves (`settle_induction`).
-/

set_option autoImplicit false

namespace LiteserverFleet.Simulation

/-- A simulation that has made a number of ticks, each in time. -/
structure Timely (ticks : Nat) (s : Simulation) : Prop where
  interval : 0 < s.settings.schedule.tickInterval
  sizes : s.monitor.fleet.length = s.connections.length
  nextTick : s.nextTick = (ticks + 1) * s.settings.schedule.tickInterval
  ticked : ticks * s.settings.schedule.tickInterval ≤ s.clock
  tickAhead : s.clock ≤ s.nextTick
  sent : ∀ c ∈ s.outstanding, c.sentAt ≤ s.clock
  ahead : ∀ c ∈ s.outstanding, s.clock ≤ c.due

/-- Nothing is due up to a time. -/
structure Settled (time : Nat) (s : Simulation) : Prop where
  tick : time < s.nextTick
  pending : ∀ c ∈ s.outstanding, time < c.due

/-- What happens next in a simulation that is running, and when. -/
inductive Next (s : Simulation) : Nat → Occurrence → Prop where
  | tick (alone : ∀ c ∈ s.outstanding, s.nextTick < c.due) : Next s s.nextTick .tick
  | completion {c : Completion} (outstanding : c ∈ s.outstanding) (inTime : c.due ≤ s.nextTick)
      (first : ∀ d ∈ s.outstanding, c.due ≤ d.due) : Next s c.due (.completion c)

theorem firstDue_eq_none {pending : List Completion} (nothing : firstDue pending = none) :
    pending = [] := by
  cases pending with
  | nil => rfl
  | cons c rest =>
      simp only [firstDue] at nothing
      split at nothing
      · split at nothing <;> cases nothing
      · cases nothing

theorem firstDue_spec {pending : List Completion} {c : Completion}
    (first : firstDue pending = some c) : c ∈ pending ∧ ∀ d ∈ pending, c.due ≤ d.due := by
  induction pending generalizing c with
  | nil => cases first
  | cons head rest ih =>
      simp only [firstDue] at first
      split at first
      · next d isFirst =>
        obtain ⟨member, least⟩ := ih isFirst
        split at first
        · next earlier =>
          cases Option.some.inj first
          refine ⟨List.mem_cons_of_mem _ member, ?_⟩
          exact List.forall_mem_cons.mpr ⟨Nat.le_of_lt earlier, least⟩
        · next later =>
          cases Option.some.inj first
          refine ⟨List.mem_cons_self, ?_⟩
          refine List.forall_mem_cons.mpr ⟨Nat.le_refl _, fun other member => ?_⟩
          exact Nat.le_trans (Nat.le_of_not_lt later) (least other member)
      · next nothing =>
        cases Option.some.inj first
        rw [firstDue_eq_none nothing]
        exact ⟨List.mem_cons_self, List.forall_mem_cons.mpr ⟨Nat.le_refl _, by simp⟩⟩

theorem next_of_next? {s : Simulation} {due : Nat} {occurrence : Occurrence}
    (isNext : s.next? = some (due, occurrence)) : s.loop = .running ∧ Next s due occurrence := by
  unfold next? at isNext
  split at isNext
  · next running =>
    refine ⟨running, ?_⟩
    split at isNext
    · next c first =>
      obtain ⟨member, least⟩ := firstDue_spec first
      split at isNext
      · next inTime =>
        cases Option.some.inj isNext
        exact .completion member inTime least
      · next late =>
        cases Option.some.inj isNext
        exact .tick fun d other => Nat.lt_of_lt_of_le (Nat.lt_of_not_le late) (least d other)
    · next nothing =>
      cases Option.some.inj isNext
      exact .tick (by simp [firstDue_eq_none nothing])
  · cases isNext

theorem settled_of_next? {s : Simulation} {time : Nat} (running : s.loop = .running)
    (later : ∀ due occurrence, s.next? = some (due, occurrence) → time < due) : Settled time s := by
  unfold next? at later
  rw [if_pos running] at later
  cases first : firstDue s.outstanding with
  | none =>
      rw [first] at later
      exact ⟨later _ _ rfl, by simp [firstDue_eq_none first]⟩
  | some c =>
      rw [first] at later
      obtain ⟨member, least⟩ := firstDue_spec first
      by_cases inTime : c.due ≤ s.nextTick
      · have behind := later _ _ (if_pos inTime)
        refine ⟨Nat.lt_of_lt_of_le behind inTime, fun d other => ?_⟩
        exact Nat.lt_of_lt_of_le behind (least d other)
      · have behind := later _ _ (if_neg inTime)
        refine ⟨behind, fun d other => ?_⟩
        exact Nat.lt_trans behind (Nat.lt_of_lt_of_le (Nat.lt_of_not_le inTime) (least d other))

/-! ## Ticks -/

theorem onTick_sent_length (settings : Settings) (now : Nat) (m : Monitor Random.Keystream) :
    (m.onTick settings now).sent.length ≤ 2 * m.fleet.length := by
  have health : (Health.pass settings.health now m.fleet).due.length ≤ m.fleet.length := by
    simp only [Health.pass, Health.probedFrom_eq_findIdxs]
    rw [List.length_findIdxs]
    refine Nat.le_trans List.countP_le_length ?_
    simp [Health.judgements]
  have archival : (Archival.pass (Health.pass settings.health now m.fleet).fleet).due.length ≤
      m.fleet.length := by
    rw [← Health.pass_fleet_length settings.health now m.fleet]
    simp only [Archival.pass, Archival.dueFrom_eq_findIdxs]
    rw [List.length_findIdxs]
    exact List.countP_le_length
  simp only [Monitor.onTick]
  split
  · simp only [List.length_append, List.length_map]
    omega
  · simp only [List.length_map]
    omega

/-! ## What occurrences leave alone -/

/-- A simulation that went on: what no occurrence changes is as before. -/
structure Kept (s next : Simulation) : Prop where
  settings : next.settings = s.settings
  loop : next.loop = s.loop
  handles : next.handles = s.handles
  connections : next.connections.length = s.connections.length
  fleet : next.monitor.fleet.length = s.monitor.fleet.length

theorem Kept.refl (s : Simulation) : Kept s s := ⟨rfl, rfl, rfl, rfl, rfl⟩

theorem Kept.trans {s next last : Simulation} (first : Kept s next) (second : Kept next last) :
    Kept s last where
  settings := second.settings.trans first.settings
  loop := second.loop.trans first.loop
  handles := second.handles.trans first.handles
  connections := second.connections.trans first.connections
  fleet := second.fleet.trans first.fleet

theorem react_kept (s : Simulation) (event : Monitor.Event) : Kept s (s.react event).1 := by
  obtain ⟨connections, outstanding, reported, reacted, sameLength, -, -⟩ := react_spec s event
  rw [reacted]
  exact ⟨rfl, rfl, rfl, sameLength, Monitor.step_fleet_length ..⟩

theorem fireTick_kept (s : Simulation) : Kept s s.fireTick := by
  have reacted := react_kept
    { s with
      clock := max s.clock s.nextTick
      nextTick := tickAfter s.settings.schedule.tickInterval s.nextTick (max s.clock s.nextTick) }
    (.tick (max s.clock s.nextTick))
  exact ⟨reacted.settings, reacted.loop, reacted.handles, reacted.connections, reacted.fleet⟩

theorem fireCompletion_kept (s : Simulation) (c : Completion) : Kept s (s.fireCompletion c) := by
  obtain ⟨reported, fired⟩ := fireCompletion_eq s c
  rw [fired]
  exact ⟨rfl, rfl, rfl, rfl, Monitor.step_fleet_length ..⟩

theorem completions_kept (due : List Completion) (s : Simulation) :
    Kept s (due.foldl fireCompletion s) := by
  induction due generalizing s with
  | nil => exact .refl s
  | cons c rest ih => exact (fireCompletion_kept s c).trans (ih (s.fireCompletion c))

theorem fire_kept (s : Simulation) (occurrence : Occurrence) : Kept s (s.fire occurrence) := by
  cases occurrence with
  | tick => exact (fireTick_kept s).trans (completions_kept _ _)
  | completion c => exact fireCompletion_kept s c

/-! ## Occurrences in time -/

section Timely

variable {ticks due time : Nat} {s : Simulation} {c : Completion} {occurrence : Occurrence}

theorem fireTick_spec (timely : Timely ticks s) :
    ∃ connections outstanding reported, s.fireTick =
      { s with
        clock := s.nextTick
        nextTick := s.nextTick + s.settings.schedule.tickInterval
        monitor := (s.monitor.step s.settings (.tick s.nextTick)).monitor
        connections, outstanding, reported } ∧
      connections.length = s.connections.length ∧
      outstanding.length ≤ s.outstanding.length + 2 * s.connections.length ∧
      ∀ c ∈ outstanding, c ∈ s.outstanding ∨ (c.sentAt = s.nextTick ∧ s.nextTick ≤ c.due) := by
  have now : max s.clock s.nextTick = s.nextTick := Nat.max_eq_right timely.tickAhead
  have next : tickAfter s.settings.schedule.tickInterval s.nextTick s.nextTick =
      s.nextTick + s.settings.schedule.tickInterval := by
    exact if_neg (by simp [tickTolerance])
  obtain ⟨connections, outstanding, reported, reacted, sameLength, more, origin⟩ := react_spec
    { s with clock := s.nextTick, nextTick := s.nextTick + s.settings.schedule.tickInterval }
    (.tick s.nextTick)
  refine ⟨connections, outstanding, reported, ?_, sameLength, ?_, origin⟩
  · simp only [fireTick, now, next]
    exact reacted
  · have sent := onTick_sent_length s.settings s.nextTick s.monitor
    rw [timely.sizes] at sent
    exact Nat.le_trans more (Nat.add_le_add_left sent _)

theorem immediate_past (timely : Timely ticks s) :
    ∀ c ∈ s.fireTick.outstanding.filter (·.isImmediate), c.due ≤ s.fireTick.clock := by
  obtain ⟨connections, afterTick, reported, ticked, -, -, origin⟩ := fireTick_spec timely
  intro c member
  obtain ⟨member, immediate⟩ := List.mem_filter.mp member
  rw [ticked] at member ⊢
  have isImmediate : c.due = c.sentAt := by simpa [Completion.isImmediate] using immediate
  rw [isImmediate]
  rcases origin c member with before | ⟨sentNow, -⟩
  · exact Nat.le_trans (timely.sent c before) timely.tickAhead
  · exact Nat.le_of_eq sentNow

/-- A tick comes at its time, and so does the next one. -/
theorem fire_tick_spec (timely : Timely ticks s) :
    ∃ monitor connections outstanding reported, s.fire .tick =
      { s with
        clock := s.nextTick
        nextTick := s.nextTick + s.settings.schedule.tickInterval
        monitor, connections, outstanding, reported } ∧
      monitor.fleet.length = connections.length ∧
      monitor.archivalDeadline =
        Schedule.nextDeadline s.settings.schedule s.monitor.archivalDeadline s.nextTick ∧
      connections.length = s.connections.length ∧
      outstanding.length ≤ s.outstanding.length + 2 * s.connections.length ∧
      ∀ c ∈ outstanding, c ∈ s.outstanding ∨ (c.sentAt = s.nextTick ∧ s.nextTick ≤ c.due) := by
  obtain ⟨connections, afterTick, reported, ticked, sameLength, more, origin⟩ := fireTick_spec timely
  obtain ⟨monitor, outstanding, allReported, done, sameFleet, sameDeadline, fewer⟩ :=
    completions_spec _ s.fireTick (immediate_past timely)
  refine ⟨monitor, connections, outstanding, allReported, ?_, ?_, ?_, sameLength, ?_, ?_⟩
  · simp only [fire, applyImmediate, done]
    rw [ticked]
  · rw [sameFleet, (fireTick_kept s).fleet, timely.sizes, sameLength]
  · rw [sameDeadline, ticked]
    exact Monitor.step_deadline ..
  · rw [ticked] at fewer
    exact Nat.le_trans fewer.length_le more
  · rw [ticked] at fewer
    intro c member
    exact origin c (fewer.subset member)

theorem fire_tick_share? (timely : Timely ticks s) (i : Nat) :
    (s.fire .tick).share? i = (s.share? i).map fun share =>
      let seen := share.see s.settings s.monitor.archivalDeadline i s.nextTick (.tick s.nextTick)
      let deadline := Schedule.nextDeadline s.settings.schedule s.monitor.archivalDeadline s.nextTick
      (seen.pending.filter (·.isImmediate)).foldl (Share.complete s.settings deadline i s.nextTick)
        seen := by
  obtain ⟨connections, outstanding, reported, ticked, -⟩ := fireTick_spec timely
  have now : max s.clock s.nextTick = s.nextTick := Nat.max_eq_right timely.tickAhead
  have seen : s.fireTick.share? i = (s.share? i).map fun share =>
      share.see s.settings s.monitor.archivalDeadline i s.nextTick (.tick s.nextTick) := by
    simp only [fireTick, react_share?, now]
    rfl
  have settings : s.fireTick.settings = s.settings := by rw [ticked]
  have clock : s.fireTick.clock = s.nextTick := by rw [ticked]
  have deadline : s.fireTick.monitor.archivalDeadline =
      Schedule.nextDeadline s.settings.schedule s.monitor.archivalDeadline s.nextTick := by
    rw [ticked]
    exact Monitor.step_deadline ..
  simp only [fire, applyImmediate]
  rw [completions_share? _ _ i (immediate_past timely), settings, clock, deadline]
  cases before : s.share? i with
  | none => simp [seen, before]
  | some share =>
      rw [before, Option.map_some] at seen
      obtain ⟨-, -, pending⟩ := of_share? seen
      simp only [seen, Option.map_some, pending, List.filter_filter, Bool.and_comm]

theorem Timely.fire_tick (timely : Timely ticks s) (alone : ∀ c ∈ s.outstanding, s.nextTick < c.due) :
    Timely (ticks + 1) (s.fire .tick) := by
  obtain ⟨monitor, connections, outstanding, reported, fired, sizes, -, -, -, origin⟩ :=
    fire_tick_spec timely
  rw [fired]
  refine ⟨timely.interval, sizes, ?_, ?_, ?_, ?_, ?_⟩
  · simp only [timely.nextTick]
    rw [← Nat.succ_mul]
  · exact Nat.le_of_eq timely.nextTick.symm
  · exact Nat.le_add_right _ _
  · intro c member
    rcases origin c member with before | ⟨sentNow, -⟩
    · exact Nat.le_trans (timely.sent c before) timely.tickAhead
    · exact Nat.le_of_eq sentNow
  · intro c member
    rcases origin c member with before | ⟨-, later⟩
    · exact Nat.le_of_lt (alone c before)
    · exact later

theorem fire_completion_spec (timely : Timely ticks s) (outstanding : c ∈ s.outstanding) :
    ∃ monitor reported, s.fire (.completion c) =
      { s with
        clock := c.due
        outstanding := s.outstanding.eraseP fun d => d.probe = c.probe
        monitor, reported } ∧
      monitor.fleet.length = s.monitor.fleet.length ∧
      monitor.archivalDeadline = s.monitor.archivalDeadline := by
  obtain ⟨reported, fired⟩ := fireCompletion_eq s c
  have now : max s.clock c.due = c.due := Nat.max_eq_right (timely.ahead c outstanding)
  rw [now] at fired
  exact ⟨_, reported, fired, Monitor.step_fleet_length .., completion_deadline ..⟩

theorem fire_completion_share? (timely : Timely ticks s) (outstanding : c ∈ s.outstanding) (i : Nat) :
    (s.fire (.completion c)).share? i =
      if c.probe.worker = i then
        (s.share? i).map fun share => share.complete s.settings s.monitor.archivalDeadline i c.due c
      else s.share? i := by
  have now : max s.clock c.due = c.due := Nat.max_eq_right (timely.ahead c outstanding)
  have fired := fireCompletion_share? s c i
  rwa [now] at fired

theorem Timely.fire_completion (timely : Timely ticks s) (outstanding : c ∈ s.outstanding)
    (inTime : c.due ≤ s.nextTick) (first : ∀ d ∈ s.outstanding, c.due ≤ d.due) :
    Timely ticks (s.fire (.completion c)) := by
  obtain ⟨monitor, reported, fired, sameFleet, -⟩ := fire_completion_spec timely outstanding
  have ahead := timely.ahead c outstanding
  rw [fired]
  refine ⟨timely.interval, ?_, timely.nextTick, Nat.le_trans timely.ticked ahead, inTime, ?_, ?_⟩
  · exact sameFleet.trans timely.sizes
  · intro d member
    exact Nat.le_trans (timely.sent d (List.mem_of_mem_eraseP member)) ahead
  · intro d member
    exact first d (List.mem_of_mem_eraseP member)

theorem Timely.clock_fire (timely : Timely ticks s) (next : Next s due occurrence) :
    (s.fire occurrence).clock = due := by
  cases next with
  | tick =>
      obtain ⟨monitor, connections, outstanding, reported, fired, -⟩ := fire_tick_spec timely
      rw [fired]
  | completion outstanding =>
      obtain ⟨monitor, reported, fired, -⟩ := fire_completion_spec timely outstanding
      rw [fired]

/-- Every occurrence lowers the bound on how many are due: a tick comes at least a millisecond behind
the one before it, and sends at most two probes to each worker. -/
theorem Timely.occurrenceBound_fire (timely : Timely ticks s) (next : Next s due occurrence)
    (reached : due ≤ time) : (s.fire occurrence).occurrenceBound time < s.occurrenceBound time := by
  cases next with
  | tick =>
      obtain ⟨monitor, connections, outstanding, reported, fired, -, -, sameLength, more, -⟩ :=
        fire_tick_spec timely
      have interval := timely.interval
      obtain ⟨later, isLater⟩ : ∃ later, time + 1 - s.nextTick = later + 1 :=
        ⟨time - s.nextTick, by omega⟩
      have fewer : time + 1 - (s.nextTick + s.settings.schedule.tickInterval) ≤ later := by omega
      have fewerTicks := Nat.mul_le_mul_right (2 * s.connections.length + 1) fewer
      simp only [fired, occurrenceBound, sameLength, isLater, Nat.succ_mul later]
      omega
  | @completion c outstanding =>
      obtain ⟨monitor, reported, fired, -⟩ := fire_completion_spec timely outstanding
      have positive := List.length_pos_of_mem outstanding
      have erased := List.length_eraseP_of_mem (p := fun d => decide (d.probe = c.probe)) outstanding
        (decide_eq_true rfl)
      simp only [fired, occurrenceBound, erased]
      omega

end Timely

/-! ## Settling -/

/-- What every occurrence that is due preserves, settling preserves. -/
theorem settleWithin_induction {P : Simulation → Prop} {time : Nat} (fuel : Nat) {s : Simulation}
    (holds : P s)
    (preserved : ∀ {s : Simulation} {due : Nat} {occurrence : Occurrence}, P s → s.loop = .running →
      Next s due occurrence → due ≤ time → P (s.fire occurrence)) :
    P (settleWithin fuel time s) := by
  induction fuel generalizing s with
  | zero => exact holds
  | succ fuel ih =>
      simp only [settleWithin]
      split
      · next due occurrence isNext =>
        obtain ⟨running, next⟩ := next_of_next? isNext
        split
        · next reached => exact ih (preserved holds running next reached)
        · exact holds
      · exact holds

/-- With a bound for what is due, settling ends only when nothing is due any more. -/
theorem settled_settleWithin {time : Nat} (fuel : Nat) {ticks : Nat} {s : Simulation}
    (timely : Timely ticks s) (running : s.loop = .running) (enough : s.occurrenceBound time ≤ fuel) :
    Settled time (settleWithin fuel time s) := by
  induction fuel generalizing ticks s with
  | zero =>
      refine settled_of_next? running fun due occurrence isNext => ?_
      obtain ⟨-, next⟩ := next_of_next? isNext
      by_contra reached
      have := timely.occurrenceBound_fire next (Nat.le_of_not_lt reached)
      omega
  | succ fuel ih =>
      simp only [settleWithin]
      split
      · next due occurrence isNext =>
        obtain ⟨-, next⟩ := next_of_next? isNext
        have stillRunning := (fire_kept s occurrence).loop.trans running
        split
        · next reached =>
          have fewer := timely.occurrenceBound_fire next reached
          cases next with
          | tick alone => exact ih (timely.fire_tick alone) stillRunning (by omega)
          | completion outstanding inTime first =>
              exact ih (timely.fire_completion outstanding inTime first) stillRunning (by omega)
        · next notReached =>
          refine settled_of_next? running fun other _ isAlso => ?_
          cases Option.some.inj (isNext.symm.trans isAlso)
          exact Nat.lt_of_not_le notReached
      · next nothing =>
        refine settled_of_next? running fun due occurrence isNext => ?_
        rw [nothing] at isNext
        cases isNext

theorem settle_kept (s : Simulation) (time : Nat) : Kept s (s.settle time) := by
  refine settleWithin_induction (P := Kept s) _ (.refl s) ?_
  intro s due occurrence before running next reached
  exact before.trans (fire_kept _ occurrence)

end LiteserverFleet.Simulation
