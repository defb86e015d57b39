import LiteserverFleet.Error
import LiteserverFleet.Notice
import LiteserverFleet.Worker

/-!
# Health

On every tick each worker is judged: is an alive-probe sent to it now?  A worker has one alive-probe in flight
at most.  A dead one waits for its retry time, and each retry counts as a failure.  Over the failure ceiling
a worker is excluded, and then sent a recovery probe whenever the exclusion cooldown has passed.
-/

set_option autoImplicit false

namespace LiteserverFleet

structure HealthSettings where
  /-- How many failed retries are tolerated before a dead worker is excluded. -/
  maxFailures : Nat := 3
  retryInterval : Nat := 10000
  probeTimeout : Nat := 5000
  /-- How long an excluded worker waits for a recovery probe; without it, for ever. -/
  exclusionCooldown : Option Nat := some 300000
deriving DecidableEq

inductive Verdict where
  | inFlight
  | excluded
  | waitingForRetry
  | probe
deriving DecidableEq

structure Judgement where
  verdict : Verdict
  worker : Worker
  notices : List Notice := []
deriving DecidableEq

namespace Health

def sendProbe (w : Worker) (notices : List Notice) : Judgement where
  verdict := .probe
  worker := { w with probeInFlight := true }
  notices := notices

/-- Judges a worker over the failure ceiling: the first time it is marked, later it is sent a recovery probe once
the cooldown has passed. -/
def judgeExcluded (settings : HealthSettings) (index now : Nat) (w : Worker) : Judgement :=
  match w.excludedSince with
  | none =>
      { verdict := .excluded
        worker := { w with excludedSince := some now }
        notices := [.excluded index w.failures] }
  | some since =>
      let cooledDown := settings.exclusionCooldown.any fun cooldown => cooldown ≤ now - since
      if cooledDown then
        sendProbe { w with excludedSince := some now, retryAt := none } [.recoveryProbe index]
      else { verdict := .excluded, worker := w, notices := [.staysExcluded index] }

/-- Judges a worker at a time.  A retry time that has come is cleared, and the retry is counted. -/
def judge (settings : HealthSettings) (index now : Nat) (w : Worker) : Judgement :=
  if w.probeInFlight then
    { verdict := .inFlight, worker := w, notices := [.stillInFlight index] }
  else if w.alive then sendProbe w []
  else if settings.maxFailures < w.failures then judgeExcluded settings index now w
  else match w.retryAt with
    | some time =>
        if time ≤ now then
          sendProbe { w with retryAt := none, failures := w.failures + 1 } [.retrying index]
        else { verdict := .waitingForRetry, worker := w, notices := [.waitingForRetry index] }
    | none =>
        if w.failures = 0 then sendProbe w []
        else { verdict := .waitingForRetry, worker := w }

def judgements (settings : HealthSettings) (now : Nat) (fleet : Fleet) : List Judgement :=
  fleet.mapIdx fun index w => judge settings index now w

def probedFrom : Nat → List Judgement → List Nat
  | _, [] => []
  | first, j :: rest =>
      if j.verdict = .probe then first :: probedFrom (first + 1) rest
      else probedFrom (first + 1) rest

end Health

structure Pass where
  due : List Nat
  fleet : Fleet
  notices : List Notice := []
deriving DecidableEq

namespace Health

/-- One health pass: judges every worker and tells which ones are to be probed, ascending. -/
def pass (settings : HealthSettings) (now : Nat) (fleet : Fleet) : Pass :=
  let judged := judgements settings now fleet
  { due := probedFrom 0 judged
    fleet := judged.map (·.worker)
    notices := judged.flatMap (·.notices) }

abbrev ProbeResult := Except FleetError Nat

def afterProbe (settings : HealthSettings) (now : Nat) (result : ProbeResult) (w : Worker) : Worker :=
  match result with
  | .ok seqno =>
      { w with
        probeInFlight := false, alive := true, headSeqno := some seqno, failures := 0
        retryAt := none, excludedSince := none }
  | .error _ =>
      { w with
        probeInFlight := false, alive := false, retryAt := some (now + settings.retryInterval) }

def probeNotices (index : Nat) (result : ProbeResult) (w : Worker) : List Notice :=
  match result with
  | .ok seqno =>
      .answered index seqno ::
        (if w.alive then []
         else if w.isExcluded then [.recovered index seqno]
         else [.becameAlive index seqno])
  | .error e =>
      .unanswered index e.message ::
        (if w.alive then [.stoppedResponding index e.message] else [])

end Health

end LiteserverFleet
