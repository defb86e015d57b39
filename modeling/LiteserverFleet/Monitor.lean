import LiteserverFleet.Archival
import LiteserverFleet.Routing
import LiteserverFleet.Settings

/-!
# The monitor

The monitor owns the workers.  Ticks, completed probes and requests reach it as events, one at a time; each event
yields a new state, the probes that are sent, what is reported, and the reply to a request.  Which events come, and
when, is not the monitor's business: a run is any list of events.
-/

set_option autoImplicit false

namespace LiteserverFleet

/-- What a probe asks of a liteserver: the head of its chain, or an old block. -/
inductive ProbeKind where
  | alive
  | archival
deriving DecidableEq

structure Probe where
  kind : ProbeKind
  worker : Nat
deriving DecidableEq

/-- What the monitor keeps: the workers, the deadline of the archival pass, and the source of random choices. -/
structure Monitor (σ : Type) where
  fleet : Fleet
  archivalDeadline : Nat
  source : σ

namespace Monitor

inductive Event where
  | tick (now : Nat)
  | aliveCompleted (worker now : Nat) (result : Health.ProbeResult)
  | archivalCompleted (worker : Nat) (succeeded : Bool)
  | select (selection : Selection)
  | snapshot

inductive Reply where
  | selected (workers : List Nat)
  | statuses (fleet : List WorkerStatus)

structure Reaction (σ : Type) where
  monitor : Monitor σ
  sent : List Probe := []
  notices : List Notice := []
  reply : Option Reply := none

variable {σ : Type} [WordSource σ]

def start (settings : Settings) (size : Nat) (source : σ) : Monitor σ where
  fleet := .fresh size
  archivalDeadline := settings.schedule.archivalFirstCheck
  source := source

/-- The passes of a tick: the health pass, and the archival pass over its result if that is due.  The probes
of a pass are sent in ascending order of workers. -/
def onTick (settings : Settings) (now : Nat) (m : Monitor σ) : Reaction σ :=
  let health := Health.pass settings.health now m.fleet
  let alive := health.due.map (Probe.mk .alive)
  let deadline := Schedule.nextDeadline settings.schedule m.archivalDeadline now
  if Schedule.archivalDue m.archivalDeadline now then
    let archival := Archival.pass health.fleet
    { monitor := { m with fleet := archival.fleet, archivalDeadline := deadline }
      sent := alive ++ archival.due.map (Probe.mk .archival)
      notices := .checkingAlive :: health.notices ++ [.checkingArchival] }
  else
    { monitor := { m with fleet := health.fleet, archivalDeadline := deadline }
      sent := alive
      notices := .checkingAlive :: health.notices }

def onAlive (settings : Settings) (worker now : Nat) (result : Health.ProbeResult) (m : Monitor σ) :
    Reaction σ where
  monitor :=
    { m with fleet := m.fleet.modify worker (Health.afterProbe settings.health now result) }
  notices := match m.fleet[worker]? with
    | some w => Health.probeNotices worker result w
    | none => []

def onArchival (worker : Nat) (succeeded : Bool) (m : Monitor σ) : Reaction σ where
  monitor := { m with fleet := m.fleet.modify worker (Archival.afterProbe succeeded) }
  notices := if worker < m.fleet.length then [.archivalFound worker succeeded] else []

/-- Serves a selection from the fleet as it is.  A draw that does not complete leaves the request without a
reply. -/
def onSelect (selection : Selection) (m : Monitor σ) : Reaction σ :=
  match Routing.select? m.fleet selection m.source with
  | some (workers, source) => { monitor := { m with source }, reply := some (.selected workers) }
  | none => { monitor := m }

def step (settings : Settings) (m : Monitor σ) : Event → Reaction σ
  | .tick now => onTick settings now m
  | .aliveCompleted worker now result => onAlive settings worker now result m
  | .archivalCompleted worker succeeded => onArchival worker succeeded m
  | .select selection => onSelect selection m
  | .snapshot => { monitor := m, reply := some (.statuses m.fleet.snapshot) }

end Monitor

end LiteserverFleet
