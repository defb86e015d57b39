import LiteserverFleet.Request.Parameters
import LiteserverFleet.Simulation.Clock

/-!
# Sessions

A session drives a simulated fleet through its handles: it waits for times, asks for workers and snapshots, sends
requests, and changes the world around the monitor.
-/

set_option autoImplicit false

namespace LiteserverFleet

inductive Command where
  | wait
  | snapshot
  | select (params : RequestParameters)
  | selectOrUnavailable (params : RequestParameters)
  | selectDirect (selection : Selection)
  | send (params : RequestParameters)
  | counts
  | rescript (worker : Nat) (head lookup call : Option Script)
  | workerCount
  | connection (worker : Nat)
  | clone
  | drop
  | advance (ms : Nat)
  | kill

inductive Answer where
  | done
  | noHandle
  | unanswered
  | statuses (result : Except FleetError (List WorkerStatus))
  | workers (result : Except FleetError (List Nat))
  | responses (result : Except FleetError (List (Nat × Except FleetError Nat)))
  | connections (all : List Connection)
  | number (n : Nat)
  | worker (index : Option Nat)

namespace Simulation

def overdueTick (s : Simulation) : Simulation :=
  if s.loop = .running && s.nextTick ≤ s.clock then s.fireTick else s

def request (s : Simulation) (event : Monitor.Event) : Option Monitor.Reply × Simulation :=
  let (s, reply) := s.overdueTick.react event
  (reply, s.applyImmediate.settle s.clock)

def selectDirect (s : Simulation) (selection : Selection) :
    Option (Except FleetError (List Nat)) × Simulation :=
  if s.loop = .over then (some (.error .shutdown), s)
  else match s.request (.select selection) with
    | (some (.selected workers), s) => (some (.ok workers), s)
    | (_, s) => (none, s)

def select (s : Simulation) (params : RequestParameters) :
    Option (Except FleetError (List Nat)) × Simulation :=
  match params.validate with
  | .error e => (some (.error e), s)
  | .ok selection => s.selectDirect selection

def selectOrUnavailable (s : Simulation) (params : RequestParameters) :
    Option (Except FleetError (List Nat)) × Simulation :=
  match s.select params with
  | (some (.ok []), s) => (some (.error .noEligibleWorkers), s)
  | answer => answer

section Requests

variable {α : Type}

/-- Calls the connections of workers, in order; workers without a connection are passed over.  Each call comes
with its behaviour. -/
def callAll (request : Connection → Behaviour α × Connection) :
    List Nat → List Connection → List (Nat × Behaviour α) × List Connection
  | [], connections => ([], connections)
  | worker :: rest, connections =>
      match connections[worker]? with
      | none => callAll request rest connections
      | some connection =>
          let (behaviour, connection) := request connection
          let (calls, connections) := callAll request rest (connections.set worker connection)
          ((worker, behaviour) :: calls, connections)

def longest? (calls : List (Nat × Behaviour α)) : Option Nat :=
  calls.foldlM (fun time call => call.2.latency.map (max time)) 0

/-- Runs a request on every selected worker and waits for all answers, which come in selection order. -/
def sendRequest (s : Simulation) (request : Connection → Behaviour α × Connection)
    (params : RequestParameters) :
    Option (Except FleetError (List (Nat × Except FleetError α))) × Simulation :=
  match s.selectOrUnavailable params with
  | (none, s) => (none, s)
  | (some (.error e), s) => (some (.error e), s)
  | (some (.ok workers), s) =>
      let (calls, connections) := callAll request workers s.connections
      let s := { s with connections }
      match longest? calls with
      | none => (none, s)
      | some ms =>
          (some (.ok (calls.map fun call => (call.1, call.2.result))), s.waitUntil (s.clock + ms))

end Requests

def answered {α : Type} (wrap : Except FleetError α → Answer)
    (outcome : Option (Except FleetError α) × Simulation) : Answer × Simulation :=
  (outcome.1.elim .unanswered wrap, outcome.2)

def needsHandle : Command → Bool
  | .snapshot | .select _ | .selectOrUnavailable _ | .selectDirect _ | .send _ => true
  | .workerCount | .connection _ => true
  | _ => false

def perform (s : Simulation) (command : Command) : Answer × Simulation :=
  if needsHandle command && s.handles = 0 then (.noHandle, s)
  else match command with
    | .wait => (.done, s)
    | .snapshot =>
        if s.loop = .over then (.statuses (.error .shutdown), s)
        else match s.request .snapshot with
          | (some (.statuses all), s) => (.statuses (.ok all), s)
          | (_, s) => (.unanswered, s)
    | .select params => answered .workers (s.select params)
    | .selectOrUnavailable params => answered .workers (s.selectOrUnavailable params)
    | .selectDirect selection => answered .workers (s.selectDirect selection)
    | .send params => answered .responses (s.sendRequest Connection.answerCall params)
    | .counts => (.connections s.connections, s)
    | .rescript worker head lookup call =>
        (.done,
          { s with connections := s.connections.modify worker (·.rescript head lookup call) })
    | .workerCount => (.number s.connections.length, s)
    | .connection worker =>
        (.worker (if worker < s.connections.length then some worker else none), s)
    | .clone =>
        let handles := if s.handles = 0 then 0 else s.handles + 1
        (.number handles, { s with handles })
    | .drop =>
        let handles := s.handles - 1
        let loop := if handles = 0 && s.loop = .running then .ending else s.loop
        (.number handles, { s with handles, loop })
    | .advance ms => (.done, s.jump ms)
    | .kill => (.done, { s with loop := .over, outstanding := [] })

/-- What a step of a session shows: the answer, the time behind it, and the notices since the last step. -/
structure Report where
  answer : Answer
  time : Nat
  notices : List Notice

def step (s : Simulation) (time : Nat) (command : Command) : Report × Simulation :=
  let (answer, s) := (s.waitUntil time).perform command
  ({ answer, time := s.clock, notices := s.reported.reverse }, { s with reported := [] })

def session (s : Simulation) : List (Nat × Command) → List Report
  | [] => []
  | (time, command) :: rest =>
      let (report, s) := s.step time command
      report :: s.session rest

end Simulation

end LiteserverFleet
