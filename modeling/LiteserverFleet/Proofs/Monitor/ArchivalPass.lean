import LiteserverFleet.Proofs.Monitor.Backoff
import LiteserverFleet.Proofs.Monitor.InFlight

/-!
# The archival passes of a run

An archival pass sets its next deadline from the tick at which it is made, not from the deadline that this tick has
reached.  So what an interval exceeds the ticks by is rounded up at every pass anew, and in a run with regular
ticks the passes lie the same number of ticks apart (`Schedule.passTick`).  Each pass asks the workers that
are alive and have no lookup on its way (`Reachable.archival_passes`).
-/

set_option autoImplicit false

namespace LiteserverFleet

/-! ## The deadline behind regular ticks -/

namespace Schedule

section Passes

variable (schedule : ScheduleSettings)

/-- The number of the tick at which each archival pass is made; the first tick has number one. -/
def passTick (m : Nat) : Nat :=
  max 1 (schedule.archivalFirstCheck ⌈/⌉ schedule.tickInterval) +
    m * (schedule.archivalInterval ⌈/⌉ schedule.tickInterval)

/-- Behind a number of regular ticks some passes have been made, and the deadline is reached at the tick of
the next one. -/
structure PassesMade (ticks passes deadline : Nat) : Prop where
  made : ∀ m < passes, passTick schedule m ≤ ticks
  ahead : ticks < passTick schedule passes
  reached : ∀ tick, 0 < tick →
    (deadline ≤ tick * schedule.tickInterval ↔ passTick schedule passes ≤ tick)

variable {schedule} {ticks passes deadline : Nat}

theorem passTick_succ (m : Nat) :
    passTick schedule (m + 1) =
      passTick schedule m + schedule.archivalInterval ⌈/⌉ schedule.tickInterval := by
  simp only [passTick, Nat.succ_mul, Nat.add_assoc]

theorem passTick_strictMono (tick : 0 < schedule.tickInterval) (interval : 0 < schedule.archivalInterval) :
    StrictMono (passTick schedule) := by
  apply strictMono_nat_of_lt_succ
  intro m
  rw [passTick_succ]
  exact Nat.lt_add_of_pos_right (Backoff.ceilDiv_pos tick interval)

theorem passesMade_start (positive : 0 < schedule.tickInterval) :
    PassesMade schedule 0 0 schedule.archivalFirstCheck where
  made _ none := absurd none (Nat.not_lt_zero _)
  ahead := Nat.lt_of_lt_of_le Nat.zero_lt_one (Nat.le_trans (Nat.le_max_left 1 _) (Nat.le_add_right _ _))
  reached := by
    intro tick isTick
    have reached : 0 * schedule.tickInterval + schedule.archivalFirstCheck ≤ tick * schedule.tickInterval ↔
        0 + schedule.archivalFirstCheck ⌈/⌉ schedule.tickInterval ≤ tick := Backoff.passed_iff positive
    rw [Nat.zero_mul, Nat.zero_add, Nat.zero_add] at reached
    rw [reached, passTick, Nat.zero_mul, Nat.add_zero, Nat.max_le]
    exact ⟨fun passed => ⟨isTick, passed⟩, And.right⟩

theorem PassesMade.due_iff (made : PassesMade schedule ticks passes deadline) :
    archivalDue deadline ((ticks + 1) * schedule.tickInterval) = true ↔ ticks + 1 = passTick schedule passes := by
  have ahead := made.ahead
  rw [archivalDue, decide_eq_true_iff, made.reached _ (Nat.succ_pos ticks)]
  omega

/-- A tick at which no pass is due lies strictly between two passes. -/
theorem PassesMade.exists_passTick_iff (made : PassesMade schedule ticks passes deadline)
    (increasing : StrictMono (passTick schedule)) :
    (∃ m, ticks + 1 = passTick schedule m) ↔ ticks + 1 = passTick schedule passes := by
  constructor
  · rintro ⟨m, isPass⟩
    have notMade : ¬ m < passes := by
      intro before
      have := made.made m before
      omega
    have notLater : m ≤ passes := by
      apply increasing.le_iff_le.mp
      rw [← isPass]
      exact made.ahead
    rw [isPass, Nat.le_antisymm notLater (Nat.le_of_not_lt notMade)]
  · intro isPass
    exact ⟨passes, isPass⟩

theorem PassesMade.tick (made : PassesMade schedule ticks passes deadline)
    (positive : 0 < schedule.tickInterval) (increasing : StrictMono (passTick schedule)) :
    ∃ passes, PassesMade schedule (ticks + 1) passes
      (nextDeadline schedule deadline ((ticks + 1) * schedule.tickInterval)) := by
  have ahead := made.ahead
  unfold nextDeadline
  split
  · next due =>
    have isPass := made.due_iff.mp due
    refine ⟨passes + 1, ?_, ?_, ?_⟩
    · intro m before
      rw [isPass]
      exact increasing.monotone (Nat.le_of_lt_succ before)
    · rw [isPass]
      exact increasing (Nat.lt_succ_self passes)
    · intro tick _
      rw [Backoff.passed_iff positive, passTick_succ, isPass]
  · next notDue =>
    have noPass := mt made.due_iff.mpr notDue
    refine ⟨passes, ?_, by omega, made.reached⟩
    intro m before
    exact Nat.le_succ_of_le (made.made m before)

end Passes

end Schedule

/-! ## The lookups of a tick -/

namespace Monitor

theorem checkingArchival_notMem_judge (settings : HealthSettings) (index now : Nat) (w : Worker) :
    Notice.checkingArchival ∉ (Health.judge settings index now w).notices := by
  unfold Health.judge Health.judgeExcluded
  split
  · simp
  · split
    · simp [Health.sendProbe]
    · split
      · split
        · simp
        · dsimp only
          split <;> simp [Health.sendProbe]
      · split
        · split <;> simp [Health.sendProbe]
        · split <;> simp [Health.sendProbe]

section Tick

variable {σ : Type} [WordSource σ] {settings : Settings} {m : Monitor σ} {now : Nat}

omit [WordSource σ] in
theorem checkingArchival_mem_notices :
    Notice.checkingArchival ∈ (m.onTick settings now).notices ↔
      Schedule.archivalDue m.archivalDeadline now = true := by
  have noJudgement : Notice.checkingArchival ∉ (Health.pass settings.health now m.fleet).notices := by
    simp only [Health.pass, Health.judgements, List.mem_flatMap, List.mem_mapIdx]
    rintro ⟨_, ⟨index, _, rfl⟩, noticed⟩
    exact checkingArchival_notMem_judge _ _ _ _ noticed
  unfold onTick
  dsimp only
  split
  · next due => simp [due]
  · next notDue => simp [notDue, noJudgement]

omit [WordSource σ] in
/-- A judgement changes nothing on which an archival pass depends. -/
theorem mem_lookups {i : Nat} :
    i ∈ (Archival.pass (Health.pass settings.health now m.fleet).fleet).due ↔
      ∃ w, m.fleet[i]? = some w ∧ w.alive = true ∧ w.archivalInFlight = false := by
  rw [Archival.mem_pass_due, Health.pass_fleet_getElem?]
  cases m.fleet[i]? with
  | none => simp
  | some w =>
      obtain ⟨sameAlive, -, -, sameFlag⟩ := (Health.judge_judged settings.health i now w).frame
      simp [Archival.isDue, sameAlive, sameFlag]

omit [WordSource σ] in
theorem onTick_lookups :
    (m.onTick settings now).sent.filter (fun probe => probe.kind = .archival) =
      if Schedule.archivalDue m.archivalDeadline now then
        (Archival.pass (Health.pass settings.health now m.fleet).fleet).due.map (Probe.mk .archival)
      else [] := by
  have noAlive (due : List Nat) :
      (due.map (Probe.mk .alive)).filter (fun probe => probe.kind = .archival) = [] := by
    simp
  have allArchival (due : List Nat) :
      (due.map (Probe.mk .archival)).filter (fun probe => probe.kind = .archival) =
        due.map (Probe.mk .archival) := by
    simp
  unfold onTick
  dsimp only
  split
  · rw [List.filter_append, noAlive, allArchival, List.nil_append]
  · exact noAlive _

end Tick

def Event.tick? : Event → Option Nat
  | .tick now => some now
  | _ => none

end Monitor

/-! ## Runs with regular ticks -/

namespace Watch

/-- When the ticks of a past came, the first one first. -/
def tickTimes (past : List Moment) : List Nat :=
  (past.filterMap fun moment => moment.event.tick?).reverse

/-- A past with a number of ticks, which came at the multiples of an interval. -/
def Regular (interval ticks : Nat) (past : List Moment) : Prop :=
  tickTimes past = (List.range ticks).map fun k => (k + 1) * interval

section Regular

variable {interval ticks : Nat} {event : Monitor.Event} {sent : List Probe} {past : List Moment}

theorem regular_nil (regular : Regular interval ticks []) : ticks = 0 := by
  have lengths := congrArg List.length regular
  simpa [tickTimes] using lengths.symm

theorem regular_tick {now : Nat} (regular : Regular interval ticks (⟨.tick now, sent⟩ :: past)) :
    ∃ earlier, ticks = earlier + 1 ∧ now = (earlier + 1) * interval ∧ Regular interval earlier past := by
  have grown : tickTimes past ++ [now] = (List.range ticks).map fun k => (k + 1) * interval := by
    rw [← regular]
    exact List.reverse_cons.symm
  cases ticks with
  | zero => simp at grown
  | succ earlier =>
      rw [List.range_succ, List.map_append] at grown
      obtain ⟨before, last⟩ := List.append_inj' grown rfl
      exact ⟨earlier, rfl, List.singleton_inj.mp last, before⟩

theorem regular_other (other : event.tick? = none)
    (regular : Regular interval ticks (⟨event, sent⟩ :: past)) : Regular interval ticks past := by
  have same : tickTimes (⟨event, sent⟩ :: past) = tickTimes past :=
    congrArg List.reverse (List.filterMap_cons_none other)
  exact same.symm.trans regular

end Regular

variable {σ : Type} [WordSource σ] {settings : Settings} {size ticks : Nat} {s : Watch σ}

theorem Reachable.passesMade (accepted : settings.validate = .ok ()) (reached : Reachable settings size s)
    (regular : Regular settings.schedule.tickInterval ticks s.past) :
    ∃ passes, Schedule.PassesMade settings.schedule ticks passes s.monitor.archivalDeadline := by
  obtain ⟨tick, interval, -⟩ := (settings.validate_eq_ok_iff).mp accepted
  have tickPositive := Nat.pos_of_ne_zero tick
  have increasing := Schedule.passTick_strictMono tickPositive (Nat.pos_of_ne_zero interval)
  induction reached generalizing ticks with
  | start source =>
      obtain rfl := regular_nil regular
      exact ⟨0, Schedule.passesMade_start tickPositive⟩
  | @step s next action reached went ih =>
      rcases reached.moved_event (moved_of_step? went) with
        ⟨monitor, samePast⟩ | ⟨event, monitor, grown, -⟩
      · rw [monitor]
        exact ih (samePast ▸ regular)
      · rw [grown] at regular
        rw [monitor, Monitor.step_deadline]
        cases event with
        | tick now =>
            obtain ⟨earlier, rfl, rfl, before⟩ := regular_tick regular
            obtain ⟨passes, made⟩ := ih before
            exact made.tick tickPositive increasing
        | aliveCompleted | archivalCompleted | select | snapshot => exact ih (regular_other rfl regular)

/-- In a run whose ticks come at the multiples of the tick interval, the archival pass is made at the first tick that
is not before the first check, and then whenever as many ticks have passed as the interval takes up.  A tick with a
pass sends a lookup to each worker that is alive and has none on its way, in ascending order; any other tick sends no
lookup. -/
theorem Reachable.archival_passes (accepted : settings.validate = .ok ())
    (reached : Reachable settings size s) (regular : Regular settings.schedule.tickInterval ticks s.past) :
    let schedule := settings.schedule
    let reaction := s.monitor.step settings (.tick ((ticks + 1) * schedule.tickInterval))
    (Notice.checkingArchival ∈ reaction.notices ↔ ∃ m, ticks + 1 =
      max 1 (schedule.archivalFirstCheck ⌈/⌉ schedule.tickInterval) +
        m * (schedule.archivalInterval ⌈/⌉ schedule.tickInterval)) ∧
    ∃ due : List Nat, due.Pairwise (· < ·) ∧
      reaction.sent.filter (fun probe => probe.kind = .archival) = due.map (Probe.mk .archival) ∧
        ∀ i, i ∈ due ↔ Notice.checkingArchival ∈ reaction.notices ∧
          ∃ w, s.monitor.fleet[i]? = some w ∧ w.alive = true ∧ s.outstanding ⟨.archival, i⟩ = 0 := by
  intro schedule reaction
  obtain ⟨passes, made⟩ := reached.passesMade accepted regular
  obtain ⟨tick, interval, -⟩ := (settings.validate_eq_ok_iff).mp accepted
  have increasing : StrictMono (Schedule.passTick schedule) :=
    Schedule.passTick_strictMono (Nat.pos_of_ne_zero tick) (Nat.pos_of_ne_zero interval)
  have noticed : Notice.checkingArchival ∈ reaction.notices ↔
      Schedule.archivalDue s.monitor.archivalDeadline ((ticks + 1) * schedule.tickInterval) = true :=
    Monitor.checkingArchival_mem_notices
  constructor
  · exact noticed.trans (made.due_iff.trans (made.exists_passTick_iff increasing).symm)
  · by_cases due :
      Schedule.archivalDue s.monitor.archivalDeadline ((ticks + 1) * schedule.tickInterval) = true
    · refine ⟨_, Archival.pass_due_ascending _, Monitor.onTick_lookups.trans (if_pos due), ?_⟩
      intro i
      rw [Monitor.mem_lookups, noticed]
      simp only [due, true_and]
      apply exists_congr
      intro w
      apply and_congr_right
      intro found
      -- The flag tells whether a lookup is on its way.
      rw [reached.outstanding_eq, flagged_eq found, Worker.awaits]
      cases w.archivalInFlight <;> simp
    · refine ⟨[], .nil, Monitor.onTick_lookups.trans (if_neg due), ?_⟩
      intro i
      simp [noticed, due]

/-- With a first check within the first tick, and an interval of a tick and a half, passes are made at the ticks
one, three and so on.  At the third tick, worker 0 is alive and is asked, and worker 1 is not. -/
theorem archival_passes_third_tick :
    let settings : Settings :=
      { configPath := "net"
        schedule := { tickInterval := 1000, archivalFirstCheck := 500, archivalInterval := 1500 } }
    ∃ s : Watch Random.Keystream, settings.validate = .ok () ∧ Reachable settings 2 s ∧
      Regular 1000 2 s.past ∧ Notice.checkingArchival ∈ (s.monitor.step settings (.tick 3000)).notices ∧
        ⟨.archival, 0⟩ ∈ (s.monitor.step settings (.tick 3000)).sent ∧
          ⟨.archival, 1⟩ ∉ (s.monitor.step settings (.tick 3000)).sent := by
  intro settings
  have accepted : settings.validate = .ok () := rfl
  have reached : Reachable settings 2 _ :=
    (Reachable.start (Random.Keystream.ofSeed 7)).run (show run? _ _ [.tick 1000,
      .answer ⟨.alive, 0⟩ (.ok 5), .deliver 1100, .tick 2000] = some _ from rfl)
  obtain ⟨passes, due, -, sent, isDue⟩ :=
    Reachable.archival_passes accepted reached (show Regular 1000 2 _ from rfl)
  have third : 2 + 1 = max 1 (500 ⌈/⌉ 1000) + 1 * (1500 ⌈/⌉ 1000) := by decide +kernel
  have made := passes.mpr ⟨1, third⟩
  have lookup (i : Nat) : ⟨.archival, i⟩ ∈ due.map (Probe.mk .archival) ↔ i ∈ due := by simp
  refine ⟨_, accepted, reached, rfl, made, ?_, ?_⟩
  · have asked : 0 ∈ due := (isDue 0).mpr ⟨made, _, rfl, rfl, rfl⟩
    rw [← lookup, ← sent] at asked
    exact List.mem_of_mem_filter asked
  · intro asked
    have member : ⟨.archival, 1⟩ ∈ due.map (Probe.mk .archival) := by
      rw [← sent]
      exact List.mem_filter_of_mem asked rfl
    obtain ⟨-, w, found, alive, -⟩ := (isDue 1).mp ((lookup 1).mp member)
    cases found
    cases alive

end Watch

end LiteserverFleet
