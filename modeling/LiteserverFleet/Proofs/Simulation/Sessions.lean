import LiteserverFleet.Proofs.Settings
import LiteserverFleet.Proofs.Simulation.Timeline

/-!
# Between the steps of a session

Behind each step of a session nothing is due (`AtRest`), unless the clock jumps.  Requests of the
session and calls of its connections do not touch anything that probes depend on (`SameProbes`).  So
what ticks and completions preserve holds behind every such session, as long as the loop runs
(`after_induction`).
-/

set_option autoImplicit false

namespace LiteserverFleet

open LiteserverFleet.Random (Keystream)

/-- A connection without what its calls need: the part that serves probes. -/
def Connection.probing (c : Connection) : Connection :=
  { c with call := [], callCalls := 0 }

namespace Simulation

structure AtRest (ticks : Nat) (s : Simulation) : Prop where
  timely : Timely ticks s
  settled : Settled s.clock s

/-- Two simulations with the same probes under way, and to come. -/
structure SameProbes (s next : Simulation) : Prop where
  settings : next.settings = s.settings
  nextTick : next.nextTick = s.nextTick
  fleet : next.monitor.fleet = s.monitor.fleet
  deadline : next.monitor.archivalDeadline = s.monitor.archivalDeadline
  connections : next.connections.map Connection.probing = s.connections.map Connection.probing
  outstanding : next.outstanding = s.outstanding

/-- A simulation in which nothing happened but that requests were served. -/
structure Quiet (s next : Simulation) : Prop extends SameProbes s next where
  clock : next.clock = s.clock
  loop : next.loop = s.loop

theorem Quiet.refl (s : Simulation) : Quiet s s := ⟨⟨rfl, rfl, rfl, rfl, rfl, rfl⟩, rfl, rfl⟩

section Rest

variable {ticks time : Nat} {s next : Simulation}

theorem SameProbes.connections_length (same : SameProbes s next) :
    next.connections.length = s.connections.length := by
  simpa using congrArg List.length same.connections

theorem SameProbes.share? {i : Nat} {share : Share} (same : SameProbes s next)
    (isShare : s.share? i = some share) :
    ∃ connection, next.share? i = some { share with connection } ∧
      connection.probing = share.connection.probing := by
  obtain ⟨found, linked, pending⟩ := of_share? isShare
  have probing := congrArg (·[i]?) same.connections
  simp only [List.getElem?_map, linked, Option.map_some] at probing
  obtain ⟨connection, stillLinked, sameProbing⟩ := Option.map_eq_some_iff.mp probing
  refine ⟨connection, ?_, sameProbing⟩
  rw [share?_eq_some (same.fleet ▸ found) stillLinked, same.outstanding, ← pending]

theorem AtRest.of_same (rest : AtRest ticks s) (same : SameProbes s next) (clock : next.clock = s.clock) :
    AtRest ticks next := by
  obtain ⟨⟨interval, sizes, nextTick, ticked, tickAhead, sent, ahead⟩, ⟨noTick, nonePending⟩⟩ := rest
  refine ⟨⟨?_, ?_, ?_, ?_, ?_, ?_, ?_⟩, ⟨?_, ?_⟩⟩
  · rw [same.settings]
    exact interval
  · rw [same.fleet, same.connections_length]
    exact sizes
  · rw [same.nextTick, same.settings]
    exact nextTick
  · rw [same.settings, clock]
    exact ticked
  · rw [clock, same.nextTick]
    exact tickAhead
  · rw [same.outstanding, clock]
    exact sent
  · rw [same.outstanding, clock]
    exact ahead
  · rw [clock, same.nextTick]
    exact noTick
  · rw [same.outstanding, clock]
    exact nonePending

theorem accepted_of_start {settings : Settings} {connections : List Connection} {entropy : Keystream}
    (started : start settings connections entropy = .ok s) :
    settings.validate = .ok () ∧ connections ≠ [] := by
  unfold start at started
  cases accepted : settings.validate with
  | error e =>
      rw [accepted] at started
      cases started
  | ok =>
      rw [accepted] at started
      refine ⟨rfl, ?_⟩
      rintro rfl
      cases started

theorem start_eq_ok {settings : Settings} {connections : List Connection}
    (accepted : settings.validate = .ok ()) (nonempty : connections ≠ []) (entropy : Keystream) :
    ∃ s, start settings connections entropy = .ok s ∧ AtRest 0 s ∧ s.settings = settings ∧
      s.loop = .running ∧ s.connections = connections ∧ s.outstanding = [] ∧
      s.monitor = .start settings connections.length (sourceOf settings entropy) := by
  obtain ⟨interval, -⟩ := (settings.validate_eq_ok_iff).mp accepted
  refine ⟨_, by simp [start, accepted, nonempty]; rfl, ?_, rfl, rfl, rfl, rfl, rfl⟩
  have positive : 0 < settings.schedule.tickInterval := Nat.pos_of_ne_zero interval
  refine ⟨⟨positive, ?_, ?_, ?_, ?_, ?_, ?_⟩, ⟨positive, ?_⟩⟩ <;>
    simp [Monitor.start, Fleet.fresh]

/-! ## Requests -/

theorem settleWithin_of_settled (settled : Settled time s) (fuel : Nat) : settleWithin fuel time s = s := by
  cases fuel with
  | zero => rfl
  | succ fuel =>
      simp only [settleWithin]
      split
      · next due occurrence isNext =>
        obtain ⟨-, next⟩ := next_of_next? isNext
        have later : time < due := by
          cases next with
          | tick => exact settled.tick
          | completion outstanding => exact settled.pending _ outstanding
        exact if_neg (Nat.not_le_of_lt later)
      · rfl

theorem AtRest.applyImmediate (rest : AtRest ticks s) : s.applyImmediate = s := by
  have none : s.outstanding.filter (·.isImmediate) = [] := by
    rw [List.filter_eq_nil_iff]
    intro c member immediate
    have isImmediate : c.due = c.sentAt := by simpa [Completion.isImmediate] using immediate
    have sent := rest.timely.sent c member
    have pending := rest.settled.pending c member
    omega
  rw [Simulation.applyImmediate, none]
  rfl

theorem AtRest.overdueTick (rest : AtRest ticks s) : s.overdueTick = s := by
  have notDue : ¬ s.nextTick ≤ s.clock := Nat.not_le_of_lt rest.settled.tick
  simp [Simulation.overdueTick, notDue]

/-- An event that only reads the fleet. -/
def Reads (event : Monitor.Event) : Prop :=
  ∀ (settings : Settings) (m : Monitor Keystream),
    (m.step settings event).sent = [] ∧ (m.step settings event).monitor.fleet = m.fleet ∧
      (m.step settings event).monitor.archivalDeadline = m.archivalDeadline

theorem reads_snapshot : Reads .snapshot := fun _ _ => ⟨rfl, rfl, rfl⟩

theorem reads_select (selection : Selection) : Reads (.select selection) := by
  intro settings m
  simp only [Monitor.step, Monitor.onSelect]
  split <;> exact ⟨rfl, rfl, rfl⟩

theorem AtRest.request (rest : AtRest ticks s) {event : Monitor.Event} (reads : Reads event) :
    Quiet s (s.request event).2 := by
  obtain ⟨nothing, sameFleet, sameDeadline⟩ := reads s.settings s.monitor
  have reacted := react_eq_of_nothing_sent s event nothing
  have quiet : Quiet s (s.react event).1 := by
    rw [reacted]
    exact ⟨⟨rfl, rfl, sameFleet, sameDeadline, rfl, rfl⟩, rfl, rfl⟩
  have restBehind := rest.of_same quiet.toSameProbes quiet.clock
  have settled := settleWithin_of_settled restBehind.settled
    ((s.react event).1.occurrenceBound (s.react event).1.clock)
  have requested : (s.request event).2 = (s.react event).1 := by
    simp only [Simulation.request, rest.overdueTick, restBehind.applyImmediate]
    exact settled
  rw [requested]
  exact quiet

/-- A simulation that was asked for workers or a snapshot, or was not asked at all. -/
inductive Served (s : Simulation) : Simulation → Prop where
  | unasked : Served s s
  | asked {event : Monitor.Event} (reads : Reads event) : Served s (s.request event).2

theorem AtRest.served (rest : AtRest ticks s) (served : Served s next) : Quiet s next := by
  cases served with
  | unasked => exact .refl s
  | asked reads => exact rest.request reads

theorem overdueTick_kept (s : Simulation) : Kept s s.overdueTick := by
  unfold overdueTick
  split
  · exact fireTick_kept s
  · exact .refl s

theorem served_kept (served : Served s next) : Kept s next := by
  cases served with
  | unasked => exact .refl s
  | @asked event reads =>
      have reacted := (overdueTick_kept s).trans (react_kept s.overdueTick event)
      exact (reacted.trans (completions_kept _ _)).trans (settle_kept _ _)

theorem served_selectDirect (s : Simulation) (selection : Selection) :
    Served s (s.selectDirect selection).2 := by
  have asked : Served s (s.request (.select selection)).2 := .asked (reads_select selection)
  unfold selectDirect
  split
  · exact .unasked
  · split
    · next answer => rwa [answer] at asked
    · next answer => rwa [answer] at asked

theorem served_select (s : Simulation) (params : RequestParameters) : Served s (s.select params).2 := by
  unfold select
  split
  · exact .unasked
  · exact served_selectDirect s _

theorem served_selectOrUnavailable (s : Simulation) (params : RequestParameters) :
    Served s (s.selectOrUnavailable params).2 := by
  have served := served_select s params
  unfold selectOrUnavailable
  split
  · next answer => rwa [answer] at served
  · exact served

theorem callAll_probing (workers : List Nat) (connections : List Connection) :
    (callAll Connection.answerCall workers connections).2.map Connection.probing =
      connections.map Connection.probing := by
  induction workers generalizing connections with
  | nil => rfl
  | cons worker rest ih =>
      simp only [callAll]
      split
      · exact ih connections
      · next connection linked =>
        rw [ih, List.map_set]
        obtain ⟨present, rfl⟩ := List.getElem?_eq_some_iff.mp linked
        have same : connections[worker].answerCall.2.probing = connections[worker].probing := rfl
        rw [same, ← List.getElem_map Connection.probing (h := by simpa using present),
          List.set_getElem_self]

/-! ## Commands -/

theorem settle_endLoop_loop (running : (s.endLoop.settle time).loop = .running) :
    s.loop = .running := by
  have kept := settle_kept s.endLoop time
  have stillRunning : s.endLoop.loop = .running := kept.loop.symm.trans running
  unfold endLoop at stillRunning
  split at stillRunning
  · cases stillRunning
  · exact stillRunning

theorem waitUntil_loop (running : (s.waitUntil time).loop = .running) : s.loop = .running := by
  unfold waitUntil at running
  split at running
  · exact settle_endLoop_loop running
  · exact running

/-- The ways in which a simulation performs a command. -/
inductive Performed (s : Simulation) : Command → Simulation → Prop where
  | served {command : Command} {next : Simulation} (served : Served s next) : Performed s command next
  | answered {params : RequestParameters} {selected : Simulation} {workers : List Nat} {time : Nat}
      (served : Served s selected) :
      Performed s (.send params)
        ({ selected with
            connections := (callAll Connection.answerCall workers selected.connections).2 }.waitUntil time)
  | rescripted (worker : Nat) (head lookup call : Option Script) :
      Performed s (.rescript worker head lookup call)
        { s with connections := s.connections.modify worker (·.rescript head lookup call) }
  | counted {command : Command} (handles : Nat) (loop : LoopState)
      (noNewLoop : loop = .running → s.loop = .running) : Performed s command { s with handles, loop }
  | jumped (ms : Nat) : Performed s (.advance ms) (s.jump ms)
  | killed : Performed s .kill { s with loop := .over, outstanding := [] }

/-- A request ends with the selection, or its workers are called and the time passes in which they answer. -/
theorem sendRequest_cases {α : Type} (s : Simulation) (request : Connection → Behaviour α × Connection)
    (params : RequestParameters) :
    Served s (s.sendRequest request params).2 ∨ ∃ selected workers time, Served s selected ∧
      (s.sendRequest request params).2 =
        { selected with connections := (callAll request workers selected.connections).2 }.waitUntil time := by
  have served := served_selectOrUnavailable s params
  unfold sendRequest
  split
  · next answer =>
    rw [answer] at served
    exact .inl served
  · next answer =>
    rw [answer] at served
    exact .inl served
  · next workers selected answer =>
    rw [answer] at served
    dsimp only
    split
    · -- A request that no worker will answer leaves the time as it is.
      refine .inr ⟨selected, workers, selected.clock, served, ?_⟩
      rw [waitUntil, if_neg (Nat.lt_irrefl _)]
    · exact .inr ⟨selected, workers, _, served, rfl⟩

theorem performed_sendRequest (s : Simulation) (params : RequestParameters) :
    Performed s (.send params) (s.sendRequest Connection.answerCall params).2 := by
  rcases sendRequest_cases s Connection.answerCall params with
    served | ⟨selected, workers, time, served, sent⟩
  · exact .served served
  · rw [sent]
    exact .answered served

theorem performed_perform (s : Simulation) (command : Command) :
    Performed s command (s.perform command).2 := by
  unfold perform
  split
  · exact .served .unasked
  · cases command with
    | wait | counts | workerCount | connection => exact .served .unasked
    | snapshot =>
        have asked : Served s (s.request .snapshot).2 := .asked reads_snapshot
        dsimp only
        split
        · exact .served .unasked
        · split
          · next answer =>
            rw [answer] at asked
            exact .served asked
          · next answer =>
            rw [answer] at asked
            exact .served asked
    | select params => exact .served (served_select s params)
    | selectOrUnavailable params => exact .served (served_selectOrUnavailable s params)
    | selectDirect selection => exact .served (served_selectDirect s selection)
    | send params => exact performed_sendRequest s params
    | rescript worker head lookup call => exact .rescripted worker head lookup call
    | clone => exact .counted _ s.loop id
    | drop =>
        refine .counted _ _ ?_
        split
        · intro running
          cases running
        · exact id
    | advance ms => exact .jumped ms
    | kill => exact .killed

/-- The loop does not come back. -/
theorem Performed.loop {command : Command} (performed : Performed s command next)
    (running : next.loop = .running) : s.loop = .running := by
  cases performed with
  | served served => exact (served_kept served).loop.symm.trans running
  | answered served =>
      have selectedRunning := waitUntil_loop running
      exact (served_kept served).loop.symm.trans selectedRunning
  | rescripted => exact running
  | counted handles loop noNewLoop => exact noNewLoop running
  | jumped ms =>
      unfold jump at running
      have overdueRunning := settle_endLoop_loop running
      exact overdueRunning
  | killed => cases running

end Rest

/-! ## Steps -/

/-- A property of simulations and their number of ticks that depends on what serves probes only, and
that ticks and completions preserve. -/
structure Lasting (P : Nat → Simulation → Prop) : Prop where
  tick {ticks : Nat} {s : Simulation} (timely : Timely ticks s)
    (alone : ∀ c ∈ s.outstanding, s.nextTick < c.due) (holds : P ticks s) :
    P (ticks + 1) (s.fire .tick)
  completion {ticks : Nat} {s : Simulation} {c : Completion} (timely : Timely ticks s)
    (outstanding : c ∈ s.outstanding) (holds : P ticks s) : P ticks (s.fire (.completion c))
  frame {ticks : Nat} {s next : Simulation} (same : SameProbes s next) (later : s.clock ≤ next.clock)
    (holds : P ticks s) : P ticks next

/-- What a property has to bear of a command: the clock does not jump, and the property survives new
scripts. -/
def Bears (P : Nat → Simulation → Prop) : Command → Prop
  | .advance _ => False
  | .rescript worker head lookup call => ∀ ticks s, P ticks s →
      P ticks { s with connections := s.connections.modify worker (·.rescript head lookup call) }
  | _ => True

/-- A property that does not read the connections bears every command but a jump of the clock. -/
theorem bears_of_unread {P : Nat → Simulation → Prop} {command : Command}
    (steady : ∀ ms, command ≠ .advance ms)
    (unread : ∀ ticks s connections, P ticks s → P ticks { s with connections }) : Bears P command := by
  cases command with
  | advance ms => exact steady ms rfl
  | rescript worker head lookup call =>
      intro ticks s holds
      exact unread ticks s _ holds
  | _ => trivial

/-- The simulation behind some steps of a session. -/
def after (s : Simulation) (steps : List (Nat × Command)) : Simulation :=
  steps.foldl (fun s step => (s.step step.1 step.2).2) s

section Lasting

variable {P : Nat → Simulation → Prop} {ticks time : Nat} {s : Simulation}

theorem Lasting.settle (lasting : Lasting P) (rest : AtRest ticks s) (running : s.loop = .running)
    (holds : P ticks s) (later : s.clock < time) :
    ∃ ticks, AtRest ticks { s.settle time with clock := time } ∧
      P ticks { s.settle time with clock := time } := by
  have settled : Settled time (s.settle time) :=
    settled_settleWithin _ rest.timely running (Nat.le_refl _)
  obtain ⟨ticks, timely, before, holds⟩ :
      ∃ ticks, Timely ticks (s.settle time) ∧ (s.settle time).clock ≤ time ∧
        P ticks (s.settle time) := by
    refine settleWithin_induction (P := fun s => ∃ ticks, Timely ticks s ∧ s.clock ≤ time ∧ P ticks s) _
      ⟨ticks, rest.timely, Nat.le_of_lt later, holds⟩ ?_
    rintro s due occurrence ⟨ticks, timely, -, holds⟩ - next reached
    have clock := timely.clock_fire next
    cases next with
    | tick alone =>
        refine ⟨ticks + 1, timely.fire_tick alone, ?_, lasting.tick timely alone holds⟩
        rw [clock]
        exact reached
    | completion outstanding inTime first =>
        refine ⟨ticks, timely.fire_completion outstanding inTime first, ?_,
          lasting.completion timely outstanding holds⟩
        rw [clock]
        exact reached
  have same : SameProbes (s.settle time) { s.settle time with clock := time } :=
    ⟨rfl, rfl, rfl, rfl, rfl, rfl⟩
  refine ⟨ticks, ⟨⟨timely.interval, timely.sizes, timely.nextTick, ?_, ?_, ?_, ?_⟩,
    ⟨settled.tick, settled.pending⟩⟩,
    lasting.frame same before holds⟩
  · exact Nat.le_trans timely.ticked before
  · exact Nat.le_of_lt settled.tick
  · intro c member
    exact Nat.le_trans (timely.sent c member) before
  · intro c member
    exact Nat.le_of_lt (settled.pending c member)

theorem Lasting.waitUntil (lasting : Lasting P) (rest : AtRest ticks s)
    (running : (s.waitUntil time).loop = .running) (holds : P ticks s) :
    ∃ ticks, AtRest ticks (s.waitUntil time) ∧ P ticks (s.waitUntil time) := by
  have wasRunning := waitUntil_loop running
  have noEnd : s.endLoop = s := by simp [endLoop, wasRunning]
  unfold Simulation.waitUntil
  split
  · next later =>
    rw [noEnd]
    exact lasting.settle rest wasRunning holds later
  · exact ⟨ticks, rest, holds⟩

theorem Lasting.quiet {next : Simulation} (lasting : Lasting P) (rest : AtRest ticks s)
    (quiet : Quiet s next) (holds : P ticks s) : AtRest ticks next ∧ P ticks next :=
  ⟨rest.of_same quiet.toSameProbes quiet.clock,
    lasting.frame quiet.toSameProbes (Nat.le_of_eq quiet.clock.symm) holds⟩

theorem AtRest.rescript (rest : AtRest ticks s) (worker : Nat) (head lookup call : Option Script) :
    AtRest ticks
      { s with connections := s.connections.modify worker (·.rescript head lookup call) } := by
  obtain ⟨⟨interval, sizes, nextTick, ticked, tickAhead, sent, ahead⟩, ⟨noTick, nonePending⟩⟩ := rest
  have sameLength : s.monitor.fleet.length =
      (s.connections.modify worker (·.rescript head lookup call)).length := by
    rw [List.length_modify]
    exact sizes
  exact ⟨⟨interval, sameLength, nextTick, ticked, tickAhead, sent, ahead⟩, ⟨noTick, nonePending⟩⟩

theorem Lasting.perform {next : Simulation} {command : Command} (lasting : Lasting P)
    (rest : AtRest ticks s) (holds : P ticks s) (bears : Bears P command)
    (performed : Performed s command next) (running : next.loop = .running) :
    ∃ ticks, AtRest ticks next ∧ P ticks next := by
  cases performed with
  | served served => exact ⟨ticks, lasting.quiet rest (rest.served served) holds⟩
  | @answered params selected workers time served =>
      obtain ⟨restSelected, holdsSelected⟩ := lasting.quiet rest (rest.served served) holds
      have called : Quiet selected
          { selected with connections := (callAll Connection.answerCall workers selected.connections).2 } :=
        ⟨⟨rfl, rfl, rfl, rfl, callAll_probing workers _, rfl⟩, rfl, rfl⟩
      obtain ⟨restCalled, holdsCalled⟩ := lasting.quiet restSelected called holdsSelected
      exact lasting.waitUntil restCalled running holdsCalled
  | rescripted worker head lookup call =>
      exact ⟨ticks, rest.rescript worker head lookup call, bears ticks s holds⟩
  | counted handles loop =>
      have same : SameProbes s { s with handles, loop } := ⟨rfl, rfl, rfl, rfl, rfl, rfl⟩
      exact ⟨ticks, rest.of_same same rfl, lasting.frame same (Nat.le_refl _) holds⟩
  | jumped ms => exact bears.elim
  | killed => cases running

theorem Lasting.step {command : Command} (lasting : Lasting P) (rest : AtRest ticks s)
    (holds : P ticks s) (bears : Bears P command) (running : (s.step time command).2.loop = .running) :
    ∃ ticks, AtRest ticks (s.step time command).2 ∧ P ticks (s.step time command).2 := by
  have performed := performed_perform (s.waitUntil time) command
  obtain ⟨ticks, restWaited, holdsWaited⟩ := lasting.waitUntil rest (performed.loop running) holds
  obtain ⟨ticks, restPerformed, holdsPerformed⟩ :=
    lasting.perform restWaited holdsWaited bears performed running
  have same : SameProbes ((s.waitUntil time).perform command).2 (s.step time command).2 :=
    ⟨rfl, rfl, rfl, rfl, rfl, rfl⟩
  exact ⟨ticks, restPerformed.of_same same rfl, lasting.frame same (Nat.le_refl _) holdsPerformed⟩

theorem step_loop {command : Command} (running : (s.step time command).2.loop = .running) :
    s.loop = .running :=
  waitUntil_loop ((performed_perform (s.waitUntil time) command).loop running)

theorem after_loop {steps : List (Nat × Command)} (running : (s.after steps).loop = .running) :
    s.loop = .running := by
  induction steps generalizing s with
  | nil => exact running
  | cons first rest ih => exact step_loop (ih running)

/-- What ticks and completions preserve holds behind every session that its commands bear and that
leaves the loop running. -/
theorem Lasting.after {steps : List (Nat × Command)} (lasting : Lasting P) (rest : AtRest ticks s)
    (holds : P ticks s) (bears : ∀ step ∈ steps, Bears P step.2)
    (running : (s.after steps).loop = .running) :
    ∃ ticks, AtRest ticks (s.after steps) ∧ P ticks (s.after steps) := by
  induction steps generalizing ticks s with
  | nil => exact ⟨ticks, rest, holds⟩
  | cons first others ih =>
      obtain ⟨bearsFirst, bearsOthers⟩ := List.forall_mem_cons.mp bears
      obtain ⟨ticks, restNext, holdsNext⟩ := lasting.step rest holds bearsFirst (after_loop running)
      exact ih restNext holdsNext bearsOthers running

end Lasting

end Simulation

end LiteserverFleet
