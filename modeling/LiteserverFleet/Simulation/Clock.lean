import LiteserverFleet.Random.Keystream
import LiteserverFleet.Simulation.Connection

/-!
# Simulated time

The simulation runs the monitor against scripted connections under a clock that goes from one occurrence to the
next.  Ticks come at the multiples of the tick interval.  A probe is complete when its answer comes or its
timeout ends; completions of one time are applied in the order in which their probes were sent, and before a tick
of the same time.  An answer that takes no time is applied before anything else happens.

The clock may also jump over occurrences.  They are overdue then, and happen as soon as the simulation goes on.
-/

set_option autoImplicit false

namespace LiteserverFleet

open LiteserverFleet.Random (Keystream)

structure Completion where
  probe : Probe
  sentAt : Nat
  due : Nat
  behaviour : Behaviour

namespace Completion

def ofProbe (probe : Probe) (behaviour : Behaviour) (timeout sentAt : Nat) : Completion where
  probe := probe
  sentAt := sentAt
  due := sentAt + behaviour.duration timeout
  behaviour := behaviour

def isImmediate (c : Completion) : Bool :=
  c.due = c.sentAt

def result (c : Completion) (timeout now : Nat) : Except FleetError Nat :=
  c.behaviour.outcome timeout (now - c.sentAt)

/-- Settles what the probe shows if it is due at a time, however much later it is looked at. -/
def settled (c : Completion) (timeout now : Nat) : Completion :=
  if c.due ≤ now then
    { c with behaviour := { latency := some 0, result := c.result timeout now } }
  else c

def event (c : Completion) (timeout now : Nat) : Monitor.Event :=
  match c.probe.kind with
  | .alive => .aliveCompleted c.probe.worker now (c.result timeout now)
  | .archival => .archivalCompleted c.probe.worker (c.result timeout now).isOk

end Completion

inductive LoopState where
  | running
  /-- No handle is left; the loop ends as soon as time passes. -/
  | ending
  | over
deriving DecidableEq

structure Simulation where
  settings : Settings
  clock : Nat
  nextTick : Nat
  monitor : Monitor Keystream
  connections : List Connection
  /-- The completions to come, in the order in which their probes were sent. -/
  outstanding : List Completion := []
  loop : LoopState := .running
  handles : Nat := 1
  /-- What has been reported since the last look, latest first. -/
  reported : List Notice := []

namespace Simulation

/-- The source of the seed; without a seed it is the one that entropy gave, which may be any. -/
def sourceOf (settings : Settings) (entropy : Keystream) : Keystream :=
  (settings.seed.map .ofSeed).getD entropy

def start (settings : Settings) (connections : List Connection) (entropy : Keystream := .ofSeed 0) :
    Except FleetError Simulation := do
  settings.validate
  if connections.isEmpty then .error .noLiteservers
  else pure {
    settings
    clock := 0
    nextTick := settings.schedule.tickInterval
    monitor := .start settings connections.length (sourceOf settings entropy)
    connections
    reported := [.fleetStarted connections.length] }

def send (s : Simulation) (probe : Probe) : Simulation :=
  match s.connections[probe.worker]? with
  | none => s
  | some connection =>
      let (behaviour, connection) := connection.answerProbe probe.kind
      let completion := Completion.ofProbe probe behaviour s.settings.health.probeTimeout s.clock
      { s with
        connections := s.connections.set probe.worker connection
        outstanding := s.outstanding ++ [completion] }

def react (s : Simulation) (event : Monitor.Event) : Simulation × Option Monitor.Reply :=
  let reaction := s.monitor.step s.settings event
  let reported := reaction.notices.reverse ++ s.reported
  let s := { s with monitor := reaction.monitor, reported }
  (reaction.sent.foldl send s, reaction.reply)

def tickTolerance : Nat := 5

/-- The tick behind one that was due at a time and comes now.  A tick that comes too late shifts the others. -/
def tickAfter (interval due now : Nat) : Nat :=
  if due + tickTolerance < now then now + interval else due + interval

def fireTick (s : Simulation) : Simulation :=
  let now := max s.clock s.nextTick
  let next := tickAfter s.settings.schedule.tickInterval s.nextTick now
  (react { s with clock := now, nextTick := next } (.tick now)).1

def fireCompletion (s : Simulation) (c : Completion) : Simulation :=
  let now := max s.clock c.due
  let outstanding := s.outstanding.eraseP fun d => d.probe = c.probe
  (react { s with clock := now, outstanding } (c.event s.settings.health.probeTimeout now)).1

def applyImmediate (s : Simulation) : Simulation :=
  (s.outstanding.filter (·.isImmediate)).foldl fireCompletion s

/-- The completion that is due first; of several at one time, the one whose probe was sent first. -/
def firstDue : List Completion → Option Completion
  | [] => none
  | c :: rest =>
      match firstDue rest with
      | some d => if d.due < c.due then some d else some c
      | none => some c

inductive Occurrence where
  | tick
  | completion (c : Completion)

def next? (s : Simulation) : Option (Nat × Occurrence) :=
  if s.loop = .running then
    match firstDue s.outstanding with
    | some c => if c.due ≤ s.nextTick then some (c.due, .completion c) else some (s.nextTick, .tick)
    | none => some (s.nextTick, .tick)
  else none

def fire (s : Simulation) : Occurrence → Simulation
  | .tick => s.fireTick.applyImmediate
  | .completion c => s.fireCompletion c

def settleWithin : Nat → Nat → Simulation → Simulation
  | 0, _, s => s
  | fuel + 1, time, s =>
      match s.next? with
      | some (due, occurrence) =>
          if due ≤ time then settleWithin fuel time (s.fire occurrence) else s
      | none => s

/-- At least as many occurrences as can be due at a time: each tick is due at least a millisecond behind the one
before it and sends at most two probes to each worker. -/
def occurrenceBound (s : Simulation) (time : Nat) : Nat :=
  s.outstanding.length + (time + 1 - s.nextTick) * (2 * s.connections.length + 1)

def settle (s : Simulation) (time : Nat) : Simulation :=
  settleWithin (s.occurrenceBound time) time s

def endLoop (s : Simulation) : Simulation :=
  if s.loop = .ending then
    { s with loop := .over, outstanding := [], reported := .monitorStopped :: s.reported }
  else s

def waitUntil (s : Simulation) (time : Nat) : Simulation :=
  if s.clock < time then { s.endLoop.settle time with clock := time } else s

/-- The clock jumps.  What was overdue before the jump happens now, with the results that it had then; what the jump
itself makes overdue has to wait. -/
def jump (s : Simulation) (ms : Nat) : Simulation :=
  let time := s.clock
  let outstanding := s.outstanding.map (·.settled s.settings.health.probeTimeout time)
  { s with clock := time + ms, outstanding }.endLoop.settle time

end Simulation

end LiteserverFleet
