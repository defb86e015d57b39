import LiteserverFleet.Proofs.Passes

/-!
# A step of the monitor, seen from one worker

What an event makes of the worker at an index, and which probes it sends to it, depend on that
worker and on the deadline of the archival pass only: `step_fleet_getElem?` and
`step_sent_filter`.  The deadline depends on the ticks only: `step_deadline`.
-/

set_option autoImplicit false

namespace LiteserverFleet.Monitor

variable {σ : Type} [WordSource σ]

def tickWorker (settings : Settings) (deadline index now : Nat) (w : Worker) : Worker :=
  let judged := (Health.judge settings.health index now w).worker
  if Schedule.archivalDue deadline now then Archival.mark judged else judged

theorem tickWorker_eq (settings : Settings) (deadline index now : Nat) (w : Worker) :
    tickWorker settings deadline index now w =
      let judged := (Health.judge settings.health index now w).worker
      judged.withArchival judged.archival
        (judged.archivalInFlight || (Schedule.archivalDue deadline now && judged.alive)) := by
  unfold tickWorker
  split
  · next due => simp only [Archival.mark_eq, due, Bool.true_and]
  · next notDue =>
    simp only [notDue, Bool.false_and, Bool.or_false]
    rfl

def workerAfter (settings : Settings) (deadline index : Nat) (w : Worker) : Event → Worker
  | .tick now => tickWorker settings deadline index now w
  | .aliveCompleted worker now result =>
      if worker = index then Health.afterProbe settings.health now result w else w
  | .archivalCompleted worker succeeded =>
      if worker = index then Archival.afterProbe succeeded w else w
  | .select _ | .snapshot => w

/-- The kinds of the probes that an event sends to the worker at an index. -/
def kindsSent (settings : Settings) (deadline index : Nat) (w : Worker) : Event → List ProbeKind
  | .tick now =>
      let judged := Health.judge settings.health index now w
      (if judged.verdict = .probe then [.alive] else []) ++
        (if Schedule.archivalDue deadline now ∧ Archival.isDue judged.worker then [.archival] else [])
  | _ => []

def deadlineAfter (settings : Settings) (deadline : Nat) : Event → Nat
  | .tick now => Schedule.nextDeadline settings.schedule deadline now
  | _ => deadline

theorem step_deadline (settings : Settings) (m : Monitor σ) (event : Event) :
    (m.step settings event).monitor.archivalDeadline =
      deadlineAfter settings m.archivalDeadline event := by
  cases event with
  | tick now => simp only [step, onTick, deadlineAfter]; split <;> rfl
  | aliveCompleted worker now result => rfl
  | archivalCompleted worker succeeded => rfl
  | select selection => simp only [step, onSelect, deadlineAfter]; split <;> rfl
  | snapshot => rfl

/-! ## The worker -/

theorem modify_getElem? (fleet : Fleet) (worker i : Nat) (change : Worker → Worker) :
    (fleet.modify worker change)[i]? =
      fleet[i]?.map fun w => if worker = i then change w else w := by
  rw [List.getElem?_modify]
  split <;> simp

theorem step_fleet_getElem? (settings : Settings) (m : Monitor σ) (event : Event) (i : Nat) :
    (m.step settings event).monitor.fleet[i]? =
      m.fleet[i]?.map fun w => workerAfter settings m.archivalDeadline i w event := by
  cases event with
  | tick now =>
      simp only [step, onTick, workerAfter, tickWorker]
      split
      · rw [Archival.pass_fleet_getElem?, Health.pass_fleet_getElem?, Option.map_map]
        rfl
      · rw [Health.pass_fleet_getElem?]
  | aliveCompleted worker now result => exact modify_getElem? m.fleet worker i _
  | archivalCompleted worker succeeded => exact modify_getElem? m.fleet worker i _
  | select selection =>
      simp only [step, onSelect, workerAfter, Option.map_id']
      split <;> rfl
  | snapshot => simp [step, workerAfter]

theorem step_fleet_length (settings : Settings) (m : Monitor σ) (event : Event) :
    (m.step settings event).monitor.fleet.length = m.fleet.length := by
  cases event with
  | tick now =>
      simp only [step, onTick]
      split
      · rw [Archival.pass_fleet_length, Health.pass_fleet_length]
      · rw [Health.pass_fleet_length]
  | aliveCompleted worker now result => exact List.length_modify ..
  | archivalCompleted worker succeeded => exact List.length_modify ..
  | select selection => simp only [step, onSelect]; split <;> rfl
  | snapshot => rfl

/-! ## The probes -/

/-- Of the probes of one kind that are sent to the workers of a list without repetition, at most
one goes to a given worker. -/
theorem filter_worker_map (kind : ProbeKind) (i : Nat) {due : List Nat} (distinct : due.Nodup) :
    (due.map (Probe.mk kind)).filter (fun probe => probe.worker = i) =
      if i ∈ due then [⟨kind, i⟩] else [] := by
  have only : due.filter (fun worker => worker = i) = if i ∈ due then [i] else [] := by
    rw [List.filter_eq, distinct.count]
    split <;> rfl
  rw [List.filter_map, show ((fun probe : Probe => decide (probe.worker = i)) ∘ Probe.mk kind) =
    fun worker => decide (worker = i) from rfl, only]
  split <;> rfl

omit [WordSource σ] in
theorem onTick_sent_filter (settings : Settings) (m : Monitor σ) (now i : Nat) :
    (m.onTick settings now).sent.filter (fun probe => probe.worker = i) =
      (if i ∈ (Health.pass settings.health now m.fleet).due then [⟨.alive, i⟩] else []) ++
        if Schedule.archivalDue m.archivalDeadline now ∧
            i ∈ (Archival.pass (Health.pass settings.health now m.fleet).fleet).due
        then [⟨.archival, i⟩] else [] := by
  have alive := filter_worker_map .alive i
    (Health.pass_due_ascending settings.health now m.fleet).nodup
  have archival := filter_worker_map .archival i
    (Archival.pass_due_ascending (Health.pass settings.health now m.fleet).fleet).nodup
  simp only [onTick]
  split
  · next due => simp only [List.filter_append, alive, archival, due, true_and]
  · next notDue => simp only [alive, notDue, Bool.false_eq_true, false_and, if_false, List.append_nil]

theorem step_sent_filter (settings : Settings) (m : Monitor σ) (event : Event) (i : Nat) :
    (m.step settings event).sent.filter (fun probe => probe.worker = i) =
      (m.fleet[i]?.elim [] fun w => kindsSent settings m.archivalDeadline i w event).map
        fun kind => ⟨kind, i⟩ := by
  cases event with
  | tick now =>
      simp only [step, onTick_sent_filter, Health.mem_pass_due, Archival.mem_pass_due,
        Health.pass_fleet_getElem?]
      cases m.fleet[i]? with
      | none => simp
      | some w =>
          simp only [Option.some.injEq, exists_eq_left', Option.map_some, Option.elim_some, kindsSent,
            List.map_append]
          congr 1 <;> split <;> rfl
  | aliveCompleted worker now result => cases m.fleet[i]? <;> rfl
  | archivalCompleted worker succeeded => cases m.fleet[i]? <;> rfl
  | select selection =>
      simp only [step, onSelect]
      split <;> cases m.fleet[i]? <;> rfl
  | snapshot => cases m.fleet[i]? <;> rfl

end LiteserverFleet.Monitor
