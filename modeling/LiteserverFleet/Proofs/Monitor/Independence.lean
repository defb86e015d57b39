import LiteserverFleet.Proofs.Monitor.OneWorker
import LiteserverFleet.Random.Keystream

/-!
# Workers do not interfere

A run is a list of events, whatever its surroundings.  What a worker is like behind the ticks, and
which probes it is sent, are told by two views of that list: the ticks with the completed
alive-probes of the worker, and the ticks with its completed archival probes.

The proof takes the record apart.  The health of a worker goes on without regard to its archival
probes, so the first view determines all its judgements (`healthTicks`); and the archival probes
look at no more of them than whether the worker is alive on a tick, so with these the second view
determines the rest (`glimpsesOf`).
-/

set_option autoImplicit false

namespace LiteserverFleet

namespace Health

variable (settings : HealthSettings) (index now : Nat) (w : Worker) (archival waiting : Bool)

theorem judgeExcluded_withArchival :
    judgeExcluded settings index now (w.withArchival archival waiting) =
      { judgeExcluded settings index now w with
        worker := (judgeExcluded settings index now w).worker.withArchival archival waiting } := by
  obtain ⟨_, _, _, _, _, _, _, excludedSince⟩ := w
  cases excludedSince with
  | none => rfl
  | some since =>
      simp only [judgeExcluded, Worker.withArchival]
      split <;> rfl

/-- A judgement neither reads nor changes what belongs to the archival probes. -/
theorem judge_withArchival :
    judge settings index now (w.withArchival archival waiting) =
      { judge settings index now w with
        worker := (judge settings index now w).worker.withArchival archival waiting } := by
  have excluded := judgeExcluded_withArchival settings index now w archival waiting
  obtain ⟨alive, probeInFlight, _, failures, retryAt, _, _, _⟩ := w
  cases probeInFlight with
  | true => rfl
  | false =>
      cases alive with
      | true => rfl
      | false =>
          by_cases beyond : settings.maxFailures < failures
          · simp only [judge, Worker.withArchival, beyond, if_true, Bool.false_eq_true,
              if_false] at excluded ⊢
            exact excluded
          · simp only [judge, Worker.withArchival, beyond, if_false, Bool.false_eq_true]
            cases retryAt with
            | none => cases failures <;> rfl
            | some time =>
                dsimp only
                split <;> rfl

theorem afterProbe_withArchival (result : ProbeResult) :
    afterProbe settings now result (w.withArchival archival waiting) =
      (afterProbe settings now result w).withArchival archival waiting := by
  cases result <;> rfl

end Health

namespace Monitor

/-- What is seen of a worker on a tick: its record behind the tick, and the probes that the tick
sends to it. -/
structure Glimpse where
  now : Nat
  record : Option Worker
  sent : List Probe

def glimpses {σ : Type} [WordSource σ] (settings : Settings) (i : Nat) :
    Monitor σ → List Event → List Glimpse
  | _, [] => []
  | m, event :: rest =>
      let reaction := m.step settings event
      match event with
      | .tick now =>
          { now
            record := reaction.monitor.fleet[i]?
            sent := reaction.sent.filter fun probe => probe.worker = i } ::
            glimpses settings i reaction.monitor rest
      | _ => glimpses settings i reaction.monitor rest

/-- The ticks and the completed alive-probes of a worker. -/
def aliveView (i : Nat) (events : List Event) : List Event :=
  events.filter fun
    | .tick _ => true
    | .aliveCompleted worker _ _ => worker = i
    | _ => false

/-- The ticks and the completed archival probes of a worker. -/
def archivalView (i : Nat) (events : List Event) : List Event :=
  events.filter fun
    | .tick _ => true
    | .archivalCompleted worker _ => worker = i
    | _ => false

/-! ## The two parts of a record -/

/-- The judgements of a worker on the ticks of a run, made without regard to its archival probes. -/
def healthTicks (settings : HealthSettings) (i : Nat) : Worker → List Event → List Judgement
  | _, [] => []
  | w, .tick now :: rest =>
      let judged := Health.judge settings i now w
      judged :: healthTicks settings i judged.worker rest
  | w, .aliveCompleted worker now result :: rest =>
      healthTicks settings i (if worker = i then Health.afterProbe settings now result w else w) rest
  | w, _ :: rest => healthTicks settings i w rest

/-- What is seen of a worker, put together from its judgements and from its archival probes. -/
def glimpsesOf (settings : ScheduleSettings) (i : Nat) :
    List Event → Nat → Bool → Bool → List Judgement → List Glimpse
  | [], _, _, _, _ => []
  | .tick now :: rest, deadline, archival, waiting, judged :: later =>
      let asked := Schedule.archivalDue deadline now && (judged.worker.alive && !waiting)
      { now
        record := some (judged.worker.withArchival archival (waiting || asked))
        sent := (if judged.verdict = .probe then [⟨.alive, i⟩] else []) ++
          if asked then [⟨.archival, i⟩] else [] } ::
        glimpsesOf settings i rest (Schedule.nextDeadline settings deadline now) archival
          (waiting || asked) later
  | .tick _ :: _, _, _, _, [] => []
  | .archivalCompleted worker succeeded :: rest, deadline, archival, waiting, judged =>
      if worker = i then glimpsesOf settings i rest deadline succeeded false judged
      else glimpsesOf settings i rest deadline archival waiting judged
  | _ :: rest, deadline, archival, waiting, judged =>
      glimpsesOf settings i rest deadline archival waiting judged

theorem healthTicks_aliveView (settings : HealthSettings) (i : Nat) (w : Worker)
    (events : List Event) :
    healthTicks settings i w (aliveView i events) = healthTicks settings i w events := by
  induction events generalizing w with
  | nil => rfl
  | cons event rest ih =>
      cases event with
      | tick now => exact congrArg (List.cons _) (ih _)
      | aliveCompleted worker now result =>
          by_cases same : worker = i
          · simp only [aliveView, List.filter_cons, same, decide_true, if_true, healthTicks]
            exact ih _
          · simp only [aliveView, List.filter_cons, same, decide_false, Bool.false_eq_true, if_false,
              healthTicks]
            exact ih w
      | archivalCompleted worker succeeded => exact ih w
      | select selection => exact ih w
      | snapshot => exact ih w

theorem glimpsesOf_archivalView (settings : ScheduleSettings) (i : Nat) (events : List Event)
    (deadline : Nat) (archival waiting : Bool) (judged : List Judgement) :
    glimpsesOf settings i (archivalView i events) deadline archival waiting judged =
      glimpsesOf settings i events deadline archival waiting judged := by
  induction events generalizing deadline archival waiting judged with
  | nil => rfl
  | cons event rest ih =>
      cases event with
      | tick now =>
          cases judged with
          | nil => rfl
          | cons first later => exact congrArg (List.cons _) (ih ..)
      | archivalCompleted worker succeeded =>
          by_cases same : worker = i
          · simp only [archivalView, List.filter_cons, same, decide_true, if_true, glimpsesOf]
            exact ih ..
          · simp only [archivalView, List.filter_cons, same, decide_false, Bool.false_eq_true,
              if_false, glimpsesOf]
            exact ih ..
      | aliveCompleted worker now result => exact ih ..
      | select selection => exact ih ..
      | snapshot => exact ih ..

section Parts

variable (settings : Settings) (deadline i now : Nat) (w : Worker) (archival waiting : Bool)

theorem tick_record :
    workerAfter settings deadline i (w.withArchival archival waiting) (.tick now) =
      let judged := (Health.judge settings.health i now w).worker
      judged.withArchival archival
        (waiting || (Schedule.archivalDue deadline now && (judged.alive && !waiting))) := by
  simp only [workerAfter, tickWorker_eq]
  rw [Health.judge_withArchival]
  cases waiting with
  | true => simp only [Worker.withArchival, Bool.true_or]
  | false => simp only [Worker.withArchival, Bool.false_or, Bool.not_false, Bool.and_true]

theorem tick_sent :
    (kindsSent settings deadline i (w.withArchival archival waiting) (.tick now)).map
        (fun kind => (⟨kind, i⟩ : Probe)) =
      let judged := Health.judge settings.health i now w
      (if judged.verdict = .probe then [⟨.alive, i⟩] else []) ++
        if Schedule.archivalDue deadline now && (judged.worker.alive && !waiting)
        then [⟨.archival, i⟩] else [] := by
  simp only [kindsSent]
  rw [Health.judge_withArchival]
  simp only [Archival.isDue, Worker.withArchival, Bool.and_eq_true, List.map_append]
  congr 1 <;> split <;> rfl

theorem alive_record (worker : Nat) (result : Health.ProbeResult) :
    workerAfter settings deadline i (w.withArchival archival waiting)
        (.aliveCompleted worker now result) =
      (if worker = i then Health.afterProbe settings.health now result w else w).withArchival
        archival waiting := by
  simp only [workerAfter]
  split
  · exact Health.afterProbe_withArchival settings.health now w archival waiting result
  · rfl

end Parts

theorem glimpses_eq {σ : Type} [WordSource σ] (settings : Settings) (i : Nat) (events : List Event)
    (m : Monitor σ) (w : Worker) (archival waiting : Bool)
    (found : m.fleet[i]? = some (w.withArchival archival waiting)) :
    glimpses settings i m events =
      glimpsesOf settings.schedule i events m.archivalDeadline archival waiting
        (healthTicks settings.health i w events) := by
  induction events generalizing m w archival waiting with
  | nil => rfl
  | cons event rest ih =>
      have after := step_fleet_getElem? settings m event i
      rw [found, Option.map_some] at after
      -- Whatever the event was, what comes behind it is taken apart by the induction.
      have later {record : Worker} {shown asked : Bool}
          (kept : (m.step settings event).monitor.fleet[i]? = some (record.withArchival shown asked)) :
          glimpses settings i (m.step settings event).monitor rest =
            glimpsesOf settings.schedule i rest (deadlineAfter settings m.archivalDeadline event)
              shown asked (healthTicks settings.health i record rest) := by
        rw [ih _ _ _ _ kept, step_deadline]
      cases event with
      | tick now =>
          have sent := step_sent_filter settings m (.tick now) i
          rw [found, Option.elim_some, tick_sent] at sent
          rw [tick_record] at after
          simp only [glimpses, healthTicks, glimpsesOf, after, sent, later after, deadlineAfter]
      | aliveCompleted worker now result =>
          rw [alive_record] at after
          exact later after
      | archivalCompleted worker succeeded =>
          by_cases same : worker = i
          · have record : workerAfter settings m.archivalDeadline i (w.withArchival archival waiting)
                (.archivalCompleted worker succeeded) = w.withArchival succeeded false := if_pos same
            rw [record] at after
            exact (later after).trans (if_pos same).symm
          · have record : workerAfter settings m.archivalDeadline i (w.withArchival archival waiting)
                (.archivalCompleted worker succeeded) = w.withArchival archival waiting := if_neg same
            rw [record] at after
            exact (later after).trans (if_neg same).symm
      | select selection => exact later after
      | snapshot => exact later after

/-- Two runs on the same health and schedule settings, over fleets in which a worker is there,
whatever else is: if the two views of the worker are the same, so is all that is seen of it on the
ticks. -/
theorem glimpses_determined {σ τ : Type} [WordSource σ] [WordSource τ]
    {settings others : Settings} {size otherSize i : Nat} (source : σ) (otherSource : τ)
    {events otherEvents : List Event}
    (sameHealth : settings.health = others.health)
    (sameSchedule : settings.schedule = others.schedule)
    (there : i < size) (alsoThere : i < otherSize)
    (sameAlive : aliveView i events = aliveView i otherEvents)
    (sameArchival : archivalView i events = archivalView i otherEvents) :
    glimpses settings i (start settings size source) events =
      glimpses others i (start others otherSize otherSource) otherEvents := by
  have fresh {n : Nat} (present : i < n) :
      (Fleet.fresh n)[i]? = some (Worker.withArchival {} false false) := by
    simp [Fleet.fresh, present, Worker.withArchival]
  have left := glimpses_eq settings i events (start settings size source) {} false false (fresh there)
  have right := glimpses_eq others i otherEvents (start others otherSize otherSource) {} false false
    (fresh alsoThere)
  rw [left, right, ← healthTicks_aliveView, ← glimpsesOf_archivalView, sameAlive, sameArchival,
    healthTicks_aliveView, glimpsesOf_archivalView, sameHealth, sameSchedule]
  simp only [start, sameSchedule]

/-- The first worker of two fleets: once with a second worker that fails, once alone with another
seed and a request in between, and with the two answers of the second tick the other way round. -/
theorem glimpses_determined_two_fleets :
    ∃ seen : List Glimpse, seen.length = 3 ∧
      glimpses { configPath := "net" } 0
        (start { configPath := "net" } 2 (Random.Keystream.ofSeed 7))
        [.tick 1000, .aliveCompleted 1 1050 (.error (.timeout 5000)), .aliveCompleted 0 1100 (.ok 5),
          .tick 2000, .archivalCompleted 0 true, .aliveCompleted 0 2100 (.error (.timeout 5000)),
          .tick 12200] = seen ∧
      glimpses { configPath := "other" } 0
        (start { configPath := "other" } 1 (Random.Keystream.ofSeed 8))
        [.tick 1000, .aliveCompleted 0 1100 (.ok 5), .snapshot, .tick 2000,
          .aliveCompleted 0 2100 (.error (.timeout 5000)), .archivalCompleted 0 true,
          .tick 12200] = seen := by
  refine ⟨_, ?_, ?_, rfl⟩
  · rfl
  · exact glimpses_determined _ _ rfl rfl (by decide) (by decide) rfl rfl

end Monitor

end LiteserverFleet
