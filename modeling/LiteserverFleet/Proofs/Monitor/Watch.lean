import LiteserverFleet.Proofs.Monitor.OneWorker
import Mathlib.Data.List.Count

/-!
# The monitor at work

A `Watch` is a monitor together with what it waits for: the probes whose workers have not answered
yet, and the answers that have arrived and are not applied yet, which the monitor takes in the
order of their arrival.  Ticks, answers, deliveries and requests come in any order, at any times;
a worker may answer late or never.  The past of a watch, latest moment first, tells which events
the monitor has seen and which probes it has sent.

Nothing here restricts the surroundings: `Reachable` holds of what any such run leads to.
-/

set_option autoImplicit false

namespace LiteserverFleet

namespace Monitor.Event

def completed? : Event → Option Probe
  | .aliveCompleted worker _ _ => some ⟨.alive, worker⟩
  | .archivalCompleted worker _ => some ⟨.archival, worker⟩
  | _ => none

end Monitor.Event

namespace Watch

/-- A probe and its outcome: the head of the chain or the block that was looked up, or why there
is none. -/
structure Answered where
  probe : Probe
  result : Except FleetError Nat

def Answered.event (a : Answered) (now : Nat) : Monitor.Event :=
  match a.probe.kind with
  | .alive => .aliveCompleted a.probe.worker now a.result
  | .archival => .archivalCompleted a.probe.worker a.result.isOk

theorem Answered.event_completed? (a : Answered) (now : Nat) :
    (a.event now).completed? = some a.probe := by
  obtain ⟨⟨kind, worker⟩, result⟩ := a
  cases kind <;> rfl

structure Moment where
  event : Monitor.Event
  sent : List Probe

inductive Action where
  | tick (now : Nat)
  /-- A worker answers a probe, or its time is up. -/
  | answer (probe : Probe) (result : Except FleetError Nat)
  | deliver (now : Nat)
  | select (selection : Selection)
  | snapshot

end Watch

/-- A monitor at work. -/
structure Watch (σ : Type) where
  monitor : Monitor σ
  /-- The probes that are on their way to a worker or back. -/
  calls : List Probe := []
  /-- The answers that are not applied yet, in the order of their arrival. -/
  inbox : List Watch.Answered := []
  /-- What the monitor has seen, latest first. -/
  past : List Watch.Moment := []

namespace Watch

variable {σ : Type} [WordSource σ]

def start (settings : Settings) (size : Nat) (source : σ) : Watch σ where
  monitor := .start settings size source

/-- Hands an event to the monitor and sends the probes it asks for; a probe of a worker that is
not there is not sent. -/
def react (settings : Settings) (s : Watch σ) (event : Monitor.Event) : Watch σ :=
  let reaction := s.monitor.step settings event
  let sent := reaction.sent.filter fun probe => probe.worker < reaction.monitor.fleet.length
  { s with
    monitor := reaction.monitor
    calls := s.calls ++ sent
    past := ⟨event, sent⟩ :: s.past }

/-- What an action leads to; only a probe that is on its way is answered, and only an answer that
has arrived is delivered. -/
def step? (settings : Settings) (s : Watch σ) : Action → Option (Watch σ)
  | .tick now => some (s.react settings (.tick now))
  | .answer probe result =>
      if probe ∈ s.calls then
        some { s with calls := s.calls.erase probe, inbox := s.inbox ++ [⟨probe, result⟩] }
      else none
  | .deliver now =>
      match s.inbox with
      | [] => none
      | first :: rest => some (react settings { s with inbox := rest } (first.event now))
  | .select selection => some (s.react settings (.select selection))
  | .snapshot => some (s.react settings .snapshot)

inductive Reachable (settings : Settings) (size : Nat) : Watch σ → Prop where
  | start (source : σ) : Reachable settings size (.start settings size source)
  | step {s next : Watch σ} {action : Action} (reached : Reachable settings size s)
      (went : s.step? settings action = some next) : Reachable settings size next

def run? (settings : Settings) : Watch σ → List Action → Option (Watch σ)
  | s, [] => some s
  | s, action :: rest => (s.step? settings action).bind fun next => next.run? settings rest

theorem Reachable.run {settings : Settings} {size : Nat} {actions : List Action} {s last : Watch σ}
    (reached : Reachable settings size s) (went : s.run? settings actions = some last) :
    Reachable settings size last := by
  induction actions generalizing s with
  | nil =>
      cases Option.some.inj went
      exact reached
  | cons action rest ih =>
      obtain ⟨next, first, later⟩ := Option.bind_eq_some_iff.mp went
      exact ih (reached.step first) later

/-- The ways in which a watch goes on: an answer arrives, an answer is applied, or the monitor
sees an event that completes no probe. -/
inductive Moved (settings : Settings) (s : Watch σ) : Watch σ → Prop where
  | arrived {probe : Probe} {result : Except FleetError Nat} (called : probe ∈ s.calls) :
      Moved settings s
        { s with calls := s.calls.erase probe, inbox := s.inbox ++ [⟨probe, result⟩] }
  | applied {first : Answered} {rest : List Answered} {now : Nat} (waiting : s.inbox = first :: rest) :
      Moved settings s (react settings { s with inbox := rest } (first.event now))
  | saw {event : Monitor.Event} (completesNone : event.completed? = none) :
      Moved settings s (s.react settings event)

theorem moved_of_step? {settings : Settings} {s next : Watch σ} {action : Action}
    (went : s.step? settings action = some next) : Moved settings s next := by
  cases action with
  | tick now =>
      cases Option.some.inj went
      exact .saw rfl
  | answer probe result =>
      simp only [step?] at went
      split at went
      · next called =>
        cases Option.some.inj went
        exact .arrived called
      · cases went
  | deliver now =>
      simp only [step?] at went
      split at went
      · cases went
      · next first rest waiting =>
        cases Option.some.inj went
        exact .applied waiting
  | select selection =>
      cases Option.some.inj went
      exact .saw rfl
  | snapshot =>
      cases Option.some.inj went
      exact .saw rfl

omit [WordSource σ] in
theorem fresh_worker {settings : Settings} {size : Nat} {source : σ} {i : Nat} {w : Worker}
    (found : (start settings size source).monitor.fleet[i]? = some w) : w = {} := by
  have member : w ∈ List.replicate size ({} : Worker) := List.mem_of_getElem? found
  exact List.eq_of_mem_replicate member

/-! ## What is sent -/

theorem step_sent_inRange (settings : Settings) (m : Monitor σ) (event : Monitor.Event)
    {probe : Probe} (sent : probe ∈ (m.step settings event).sent) :
    probe.worker < m.fleet.length := by
  have kept : probe ∈ (m.step settings event).sent.filter (fun p => p.worker = probe.worker) := by
    simpa using sent
  rw [Monitor.step_sent_filter] at kept
  by_contra outside
  rw [List.getElem?_eq_none (by omega)] at kept
  simp at kept

/-- No probe is held back: all workers that the monitor asks for are there. -/
theorem react_eq (settings : Settings) (s : Watch σ) (event : Monitor.Event) :
    s.react settings event =
      { s with
        monitor := (s.monitor.step settings event).monitor
        calls := s.calls ++ (s.monitor.step settings event).sent
        past := ⟨event, (s.monitor.step settings event).sent⟩ :: s.past } := by
  have all : (s.monitor.step settings event).sent.filter
      (fun probe => probe.worker < (s.monitor.step settings event).monitor.fleet.length) =
        (s.monitor.step settings event).sent := by
    rw [List.filter_eq_self]
    intro probe sent
    rw [Monitor.step_fleet_length]
    simpa using step_sent_inRange settings s.monitor event sent
  simp only [react, all]

/-- Wherever the past is cut, a watch that is reachable stood there, and sent what its monitor
asked for. -/
theorem Reachable.moment {settings : Settings} {size : Nat} {s : Watch σ}
    (reached : Reachable settings size s) {later earlier : List Moment} {moment : Moment}
    (cut : s.past = later ++ moment :: earlier) :
    ∃ before : Watch σ, Reachable settings size before ∧ before.past = earlier ∧
      moment.sent = (before.monitor.step settings moment.event).sent := by
  induction reached generalizing later with
  | start source =>
      have empty : ([] : List Moment) = later ++ moment :: earlier := cut
      simp at empty
  | @step s next action reached went ih =>
      -- The latest moment is the one that is cut off, or the cut lies before this step.
      have latest {event : Monitor.Event}
          (grown : ⟨event, (s.monitor.step settings event).sent⟩ :: s.past =
            later ++ moment :: earlier) :
          ∃ before : Watch σ, Reachable settings size before ∧ before.past = earlier ∧
            moment.sent = (before.monitor.step settings moment.event).sent := by
        cases later with
        | nil =>
            obtain ⟨rfl, rfl⟩ := List.cons.inj grown
            exact ⟨s, reached, rfl, rfl⟩
        | cons last later => exact ih (List.cons.inj grown).2
      cases moved_of_step? went with
      | arrived called => exact ih cut
      | applied waiting =>
          rw [react_eq] at cut
          exact latest cut
      | saw completesNone =>
          rw [react_eq] at cut
          exact latest cut

theorem count_of_filter {sent : List Probe} {i : Nat} {kinds : List ProbeKind}
    (toWorker : sent.filter (fun probe => probe.worker = i) = kinds.map fun kind => ⟨kind, i⟩)
    (kind : ProbeKind) : sent.count ⟨kind, i⟩ = kinds.count kind := by
  have injective : Function.Injective fun kind : ProbeKind => (⟨kind, i⟩ : Probe) := by
    intro first second same
    exact congrArg Probe.kind same
  rw [← List.count_map_of_injective _ _ injective, ← toWorker, List.count_filter (by simp)]

theorem step_sent_count (settings : Settings) (m : Monitor σ) (event : Monitor.Event)
    (kind : ProbeKind) (i : Nat) :
    (m.step settings event).sent.count ⟨kind, i⟩ =
      (m.fleet[i]?.elim [] fun w =>
        Monitor.kindsSent settings m.archivalDeadline i w event).count kind :=
  count_of_filter (Monitor.step_sent_filter settings m event i) kind

end Watch

end LiteserverFleet
