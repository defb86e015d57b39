import LiteserverFleet.Proofs.Routing
import LiteserverFleet.Proofs.Simulation.Sessions

/-!
# The calls of a request

A request is refused before anything is called, or it is called once for each selected worker, with this worker's
own connection; its answer has one entry for each of them, in selection order (`sendRequest_dispatched`).  Nothing
is lost on the way because no worker is ever without a connection (`Reached.staffed`).
-/

set_option autoImplicit false

namespace LiteserverFleet

open LiteserverFleet.Random (Keystream Refuses skip)
open LiteserverFleet.Routing (Draws)

namespace Simulation

variable {s next : Simulation} {α : Type} {request : Connection → Behaviour α × Connection}

/-! ## Connections of all workers -/

/-- Every worker has a connection. -/
def Staffed (s : Simulation) : Prop :=
  s.monitor.fleet.length = s.connections.length

theorem Kept.staffed (kept : Kept s next) (staffed : s.Staffed) : next.Staffed := by
  rw [Staffed, kept.fleet, kept.connections]
  exact staffed

theorem endLoop_staffed (staffed : s.Staffed) : s.endLoop.Staffed := by
  unfold endLoop
  split
  · exact staffed
  · exact staffed

theorem waitUntil_staffed (staffed : s.Staffed) (time : Nat) : (s.waitUntil time).Staffed := by
  unfold waitUntil
  split
  · exact (settle_kept s.endLoop time).staffed (endLoop_staffed staffed)
  · exact staffed

theorem callAll_length (request : Connection → Behaviour α × Connection) (workers : List Nat)
    (connections : List Connection) : (callAll request workers connections).2.length = connections.length := by
  induction workers generalizing connections with
  | nil => rfl
  | cons worker rest ih =>
      rw [callAll]
      split
      · exact ih connections
      · exact (ih _).trans List.length_set

theorem called_staffed (staffed : s.Staffed) (request : Connection → Behaviour α × Connection)
    (workers : List Nat) (time : Nat) :
    ({ s with connections := (callAll request workers s.connections).2 }.waitUntil time).Staffed := by
  apply waitUntil_staffed
  exact staffed.trans (callAll_length request workers s.connections).symm

theorem sendRequest_staffed (staffed : s.Staffed) (request : Connection → Behaviour α × Connection)
    (params : RequestParameters) : (s.sendRequest request params).2.Staffed := by
  rcases sendRequest_cases s request params with served | ⟨selected, workers, time, served, sent⟩
  · exact (served_kept served).staffed staffed
  · rw [sent]
    exact called_staffed ((served_kept served).staffed staffed) request workers time

theorem Performed.staffed {command : Command} (performed : Performed s command next) (staffed : s.Staffed) :
    next.Staffed := by
  cases performed with
  | served served => exact (served_kept served).staffed staffed
  | answered served => exact called_staffed ((served_kept served).staffed staffed) _ _ _
  | rescripted worker head lookup call => exact staffed.trans (List.length_modify _ _ _).symm
  | counted => exact staffed
  | jumped ms => exact (settle_kept _ _).staffed (endLoop_staffed staffed)
  | killed => exact staffed

/-- The simulations that a start leads to, with a seed or without one, by whatever happens to them: the loop reacts to
any event at any time, sessions go on, and requests of any kind are sent, which may do what they like to the
connections they are given. -/
inductive Reached : Simulation → Prop where
  | start {settings : Settings} {connections : List Connection} {entropy : Keystream} {s : Simulation}
      (started : start settings connections entropy = .ok s) : Reached s
  | reacted {s : Simulation} (reached : Reached s) (event : Monitor.Event) : Reached (s.react event).1
  | stepped {s : Simulation} (reached : Reached s) (time : Nat) (command : Command) :
      Reached (s.step time command).2
  | sent {s : Simulation} {β : Type} (reached : Reached s) (request : Connection → Behaviour β × Connection)
      (params : RequestParameters) : Reached (s.sendRequest request params).2

theorem start_staffed {settings : Settings} {connections : List Connection} {entropy : Keystream}
    (started : start settings connections entropy = .ok s) : s.Staffed := by
  obtain ⟨accepted, nonempty⟩ := accepted_of_start started
  obtain ⟨first, isFirst, rest, -⟩ := start_eq_ok accepted nonempty entropy
  cases started.symm.trans isFirst
  exact rest.timely.sizes

theorem Reached.staffed (reached : Reached s) : s.Staffed := by
  induction reached with
  | start started => exact start_staffed started
  | reacted _ event ih => exact (react_kept _ event).staffed ih
  | stepped _ time command ih =>
      exact (performed_perform _ command).staffed (waitUntil_staffed ih time)
  | sent _ request params ih => exact sendRequest_staffed ih request params

/-! ## Calls -/

/-- The calls to the connections of some workers, in order: each connection is called once, as it is at the time, and
no other one is touched. -/
structure Called (request : Connection → Behaviour α × Connection) (chosen : List Nat)
    (before : List Connection) (calls : List (Nat × Behaviour α)) (after : List Connection) : Prop where
  indices : calls.map Prod.fst = chosen
  each : ∀ call ∈ calls, ∃ connection, before[call.1]? = some connection ∧
    call.2 = (request connection).1 ∧ after[call.1]? = some (request connection).2
  others : ∀ i, i ∉ chosen → after[i]? = before[i]?

theorem callAll_called (request : Connection → Behaviour α × Connection) {chosen : List Nat}
    {connections : List Connection} (distinct : chosen.Nodup)
    (linked : ∀ i ∈ chosen, i < connections.length) :
    Called request chosen connections (callAll request chosen connections).1
      (callAll request chosen connections).2 := by
  induction chosen generalizing connections with
  | nil => exact ⟨rfl, nofun, fun _ _ => rfl⟩
  | cons worker rest ih =>
      obtain ⟨notAgain, distinctRest⟩ := List.nodup_cons.mp distinct
      obtain ⟨linkedFirst, linkedRest⟩ := List.forall_mem_cons.mp linked
      have isLinked : connections[worker]? = some connections[worker] := List.getElem?_eq_getElem linkedFirst
      rw [callAll, isLinked]
      dsimp only
      generalize connections[worker] = connection at isLinked
      have later : Called request rest (connections.set worker (request connection).2) _ _ :=
        ih distinctRest fun i member => by
          rw [List.length_set]
          exact linkedRest i member
      refine ⟨congrArg (worker :: ·) later.indices, List.forall_mem_cons.mpr ⟨?_, ?_⟩, ?_⟩
      · -- The first worker is not called again, so its connection stays as the call left it.
        refine ⟨connection, isLinked, rfl, ?_⟩
        rw [later.others worker notAgain, List.getElem?_set_self linkedFirst]
      · intro call member
        obtain ⟨found, isFound, answer, left⟩ := later.each call member
        have isChosen : call.1 ∈ rest := later.indices ▸ List.mem_map_of_mem member
        have different : worker ≠ call.1 := fun same => notAgain (same ▸ isChosen)
        rw [List.getElem?_set_ne different] at isFound
        exact ⟨found, isFound, answer, left⟩
      · intro i notChosen
        obtain ⟨different, notRest⟩ := not_or.mp (mt List.mem_cons.mpr notChosen)
        rw [later.others i notRest, List.getElem?_set_ne (Ne.symm different)]

/-- The time in which all calls are answered. -/
structure Longest (calls : List (Nat × Behaviour α)) (time : Nat) : Prop where
  bound : ∀ call ∈ calls, ∃ ms ≤ time, call.2.latency = some ms
  attained : ∃ call ∈ calls, call.2.latency = some time

theorem longestFrom_eq_some {calls : List (Nat × Behaviour α)} {first time : Nat}
    (found : calls.foldlM (fun time call => call.2.latency.map (max time)) first = some time) :
    first ≤ time ∧ (∀ call ∈ calls, ∃ ms ≤ time, call.2.latency = some ms) ∧
      (time = first ∨ ∃ call ∈ calls, call.2.latency = some time) := by
  induction calls generalizing first with
  | nil =>
      cases found
      exact ⟨Nat.le_refl _, nofun, .inl rfl⟩
  | cons call rest ih =>
      rw [List.foldlM_cons] at found
      obtain ⟨longer, isLonger, later⟩ := Option.bind_eq_some_iff.mp found
      obtain ⟨ms, latency, rfl⟩ := Option.map_eq_some_iff.mp isLonger
      obtain ⟨least, bound, attained⟩ := ih later
      have within : ms ≤ time := Nat.le_trans (Nat.le_max_right first ms) least
      refine ⟨Nat.le_trans (Nat.le_max_left first ms) least,
        List.forall_mem_cons.mpr ⟨⟨ms, within, latency⟩, bound⟩, ?_⟩
      rcases attained with same | ⟨latest, member, isLatest⟩
      · rcases Nat.le_total first ms with less | less
        · rw [Nat.max_eq_right less] at same
          exact .inr ⟨call, List.mem_cons_self, same ▸ latency⟩
        · rw [Nat.max_eq_left less] at same
          exact .inl same
      · exact .inr ⟨latest, List.mem_cons_of_mem _ member, isLatest⟩

theorem longest?_eq_some {calls : List (Nat × Behaviour α)} {time : Nat} (nonempty : calls ≠ [])
    (found : longest? calls = some time) : Longest calls time := by
  obtain ⟨-, bound, attained⟩ := longestFrom_eq_some found
  refine ⟨bound, ?_⟩
  rcases attained with rfl | attained
  · -- If no time passes, the first call is answered at once like the others.
    obtain ⟨call, member⟩ := List.exists_mem_of_ne_nil calls nonempty
    obtain ⟨ms, none, latency⟩ := bound call member
    exact ⟨call, member, Nat.le_zero.mp none ▸ latency⟩
  · exact attained

theorem longest?_eq_none {calls : List (Nat × Behaviour α)} (found : longest? calls = none) :
    ∃ call ∈ calls, call.2.latency = none := by
  unfold longest? at found
  generalize 0 = first at found
  induction calls generalizing first with
  | nil => cases found
  | cons call rest ih =>
      rw [List.foldlM_cons] at found
      cases latency : call.2.latency with
      | none => exact ⟨call, List.mem_cons_self, latency⟩
      | some ms =>
          rw [latency] at found
          obtain ⟨never, member, isNever⟩ := ih _ found
          exact ⟨never, List.mem_cons_of_mem _ member, isNever⟩

/-! ## Selecting for a request -/

/-- What a request is routed to.  A tick that is overdue comes before it. -/
def routed? (s : Simulation) (selection : Selection) : Option (List Nat × Keystream) :=
  Routing.select? s.overdueTick.monitor.fleet selection s.overdueTick.monitor.source

section Select

variable {params : RequestParameters} {selection : Selection}

theorem request_select (s : Simulation) (selection : Selection) :
    (s.request (.select selection)).1 = (s.routed? selection).map fun picked => .selected picked.1 := by
  simp only [Simulation.request, react, Monitor.step, Monitor.onSelect, routed?]
  cases Routing.select? s.overdueTick.monitor.fleet selection s.overdueTick.monitor.source <;> rfl

theorem selectDirect_of_running (running : s.loop ≠ .over) (selection : Selection) :
    s.selectDirect selection =
      ((s.routed? selection).map fun picked => .ok picked.1, (s.request (.select selection)).2) := by
  have reply := request_select s selection
  rw [selectDirect, if_neg running]
  cases asked : s.request (.select selection) with
  | mk answer next =>
      rw [asked] at reply
      obtain rfl : answer = _ := reply
      cases s.routed? selection <;> rfl

theorem validate_eq_error {e : FleetError} (refused : params.validate = .error e) :
    ∃ fault, e = .invalidRequest fault := by
  unfold RequestParameters.validate at refused
  dsimp only at refused
  repeat' split at refused
  all_goals
    cases refused
  all_goals
    exact ⟨_, rfl⟩

theorem selectOrUnavailable_of_invalid {e : FleetError} (refused : params.validate = .error e) :
    s.selectOrUnavailable params = (some (.error e), s) := by
  rw [selectOrUnavailable, select, refused]

theorem selectOrUnavailable_of_over (valid : params.validate = .ok selection) (gone : s.loop = .over) :
    s.selectOrUnavailable params = (some (.error .shutdown), s) := by
  rw [selectOrUnavailable, select, valid]
  dsimp only
  rw [selectDirect, if_pos gone]

theorem selectOrUnavailable_of_running (valid : params.validate = .ok selection) (running : s.loop ≠ .over) :
    (s.selectOrUnavailable params).1 = (s.routed? selection).map fun picked =>
      if picked.1 = [] then .error .noEligibleWorkers else .ok picked.1 := by
  rw [selectOrUnavailable, select, valid]
  dsimp only
  rw [selectDirect_of_running running]
  cases s.routed? selection with
  | none => rfl
  | some picked =>
      obtain ⟨chosen, rest⟩ := picked
      cases chosen with
      | nil => rfl
      | cons first others => rw [Option.map_some, Option.map_some, if_neg (List.cons_ne_nil first others)]

/-- A request is routed to different workers, and each of them has a connection when it is called. -/
theorem linked_of_routed (staffed : s.Staffed) {chosen : List Nat} {rest : Keystream}
    (routed : s.routed? selection = some (chosen, rest)) (params : RequestParameters) :
    chosen.Nodup ∧ ∀ i ∈ chosen, i < (s.selectOrUnavailable params).2.connections.length := by
  have isRouted := (Routing.picked_of_select? routed).routed
  refine ⟨isRouted.distinct, ?_⟩
  intro i member
  obtain ⟨w, found, -⟩ := isRouted.candidates i member
  have served := served_kept (served_selectOrUnavailable s params)
  calc
    i < s.overdueTick.monitor.fleet.length := (List.getElem?_eq_some_iff.mp found).1
    _ = s.monitor.fleet.length := (overdueTick_kept s).fleet
    _ = s.connections.length := staffed
    _ = (s.selectOrUnavailable params).2.connections.length := served.connections.symm

end Select

/-! ## Requests -/

/-- How a request comes out.  Whatever is not the result of calls is as if only the workers had been asked for, so
it cannot depend on the request that would have been run. -/
inductive Dispatched (s : Simulation) (request : Connection → Behaviour α × Connection)
    (params : RequestParameters) :
    Option (Except FleetError (List (Nat × Except FleetError α))) → Simulation → Prop where
  | invalid {fault : RequestFault} (refused : params.validate = .error (.invalidRequest fault)) :
      Dispatched s request params (some (.error (.invalidRequest fault))) s
  | shutdown {selection : Selection} (valid : params.validate = .ok selection) (gone : s.loop = .over) :
      Dispatched s request params (some (.error .shutdown)) s
  /-- All words of the source that are ahead are refused, so the draw goes on for ever. -/
  | undrawn {selection : Selection} {place faces : Nat} (valid : params.validate = .ok selection)
      (running : s.loop ≠ .over) (draws : Draws selection.policy) (positive : 0 < faces)
      (refuses : Refuses faces (skip place s.overdueTick.monitor.source)) :
      Dispatched s request params none (s.selectOrUnavailable params).2
  | nothing {selection : Selection} {rest : Keystream} (valid : params.validate = .ok selection)
      (running : s.loop ≠ .over) (routed : s.routed? selection = some ([], rest)) :
      Dispatched s request params (some (.error .noEligibleWorkers)) (s.selectOrUnavailable params).2
  | answered {selection : Selection} {chosen : List Nat} {rest : Keystream}
      {calls : List (Nat × Behaviour α)} {connections : List Connection} {time : Nat}
      (valid : params.validate = .ok selection) (running : s.loop ≠ .over)
      (routed : s.routed? selection = some (chosen, rest)) (nonempty : chosen ≠ []) (distinct : chosen.Nodup)
      (called : Called request chosen (s.selectOrUnavailable params).2.connections calls connections)
      (longest : Longest calls time) :
      Dispatched s request params (some (.ok (calls.map fun call => (call.1, call.2.result))))
        ({ (s.selectOrUnavailable params).2 with connections }.waitUntil
          ((s.selectOrUnavailable params).2.clock + time))
  /-- A call is never answered, and the others are not returned without it. -/
  | unanswered {selection : Selection} {chosen : List Nat} {rest : Keystream}
      {calls : List (Nat × Behaviour α)} {connections : List Connection}
      (valid : params.validate = .ok selection) (running : s.loop ≠ .over)
      (routed : s.routed? selection = some (chosen, rest)) (nonempty : chosen ≠ []) (distinct : chosen.Nodup)
      (called : Called request chosen (s.selectOrUnavailable params).2.connections calls connections)
      (never : ∃ call ∈ calls, call.2.latency = none) :
      Dispatched s request params none { (s.selectOrUnavailable params).2 with connections }

section Dispatch

variable {params : RequestParameters}

theorem sendRequest_of_none (request : Connection → Behaviour α × Connection)
    (answer : (s.selectOrUnavailable params).1 = none) :
    s.sendRequest request params = (none, (s.selectOrUnavailable params).2) := by
  rw [sendRequest]
  cases asked : s.selectOrUnavailable params with
  | mk reply selected =>
      rw [asked] at answer
      obtain rfl : reply = none := answer
      rfl

theorem sendRequest_of_error (request : Connection → Behaviour α × Connection) {e : FleetError}
    (answer : (s.selectOrUnavailable params).1 = some (.error e)) :
    s.sendRequest request params = (some (.error e), (s.selectOrUnavailable params).2) := by
  rw [sendRequest]
  cases asked : s.selectOrUnavailable params with
  | mk reply selected =>
      rw [asked] at answer
      obtain rfl : reply = some (.error e) := answer
      rfl

/-- The workers that are selected are called, and the answer waits for all of them. -/
theorem sendRequest_of_ok (request : Connection → Behaviour α × Connection) {workers : List Nat}
    (answer : (s.selectOrUnavailable params).1 = some (.ok workers)) :
    let selected := (s.selectOrUnavailable params).2
    let calls := (callAll request workers selected.connections).1
    let called := { selected with connections := (callAll request workers selected.connections).2 }
    (∃ ms, longest? calls = some ms ∧ s.sendRequest request params =
        (some (.ok (calls.map fun call => (call.1, call.2.result))), called.waitUntil (selected.clock + ms))) ∨
      longest? calls = none ∧ s.sendRequest request params = (none, called) := by
  rw [sendRequest]
  cases asked : s.selectOrUnavailable params with
  | mk reply selected =>
      rw [asked] at answer
      obtain rfl : reply = some (.ok workers) := answer
      dsimp only
      cases latest : longest? (callAll request workers selected.connections).1 with
      | none => exact .inr ⟨rfl, rfl⟩
      | some ms => exact .inl ⟨ms, rfl, rfl⟩

/-- A request that is routed to workers calls them, for they all have connections. -/
theorem dispatched_of_chosen (staffed : s.Staffed) (request : Connection → Behaviour α × Connection)
    {selection : Selection} {chosen : List Nat} {rest : Keystream} (valid : params.validate = .ok selection)
    (running : s.loop ≠ .over) (routed : s.routed? selection = some (chosen, rest)) (nonempty : chosen ≠ []) :
    Dispatched s request params (s.sendRequest request params).1 (s.sendRequest request params).2 := by
  have answer : (s.selectOrUnavailable params).1 = some (.ok chosen) := by
    rw [selectOrUnavailable_of_running valid running, routed, Option.map_some, if_neg nonempty]
  obtain ⟨distinct, linked⟩ := linked_of_routed staffed routed params
  have called := callAll_called request distinct linked
  have anyCall : (callAll request chosen (s.selectOrUnavailable params).2.connections).1 ≠ [] := by
    intro none
    have indices := called.indices
    rw [none] at indices
    exact nonempty indices.symm
  rcases sendRequest_of_ok request answer with ⟨ms, latest, sent⟩ | ⟨never, sent⟩
  · rw [sent]
    exact .answered valid running routed nonempty distinct called (longest?_eq_some anyCall latest)
  · rw [sent]
    exact .unanswered valid running routed nonempty distinct called (longest?_eq_none never)

/-- Whatever has happened before, a request is refused without a call, or each worker that it is routed to is called
once and has its entry in the answer. -/
theorem sendRequest_dispatched (reached : Reached s) (request : Connection → Behaviour α × Connection)
    (params : RequestParameters) :
    Dispatched s request params (s.sendRequest request params).1 (s.sendRequest request params).2 := by
  cases valid : params.validate with
  | error e =>
      obtain ⟨fault, rfl⟩ := validate_eq_error valid
      rw [sendRequest, selectOrUnavailable_of_invalid valid]
      exact .invalid valid
  | ok selection =>
      cases Decidable.em (s.loop = .over) with
      | inl gone =>
          rw [sendRequest, selectOrUnavailable_of_over valid gone]
          exact .shutdown valid gone
      | inr running =>
          have answer := selectOrUnavailable_of_running valid running
          cases routed : s.routed? selection with
          | none =>
              obtain ⟨draws, place, faces, positive, -, refuses⟩ := Routing.refuses_of_select? routed
              rw [routed] at answer
              rw [sendRequest_of_none request answer]
              exact .undrawn valid running draws positive refuses
          | some picked =>
              obtain ⟨chosen, rest⟩ := picked
              cases chosen with
              | nil =>
                  rw [routed] at answer
                  rw [sendRequest_of_error request answer]
                  exact .nothing valid running routed
              | cons first others =>
                  have nonempty : first :: others ≠ [] := List.cons_ne_nil first others
                  exact dispatched_of_chosen reached.staffed request valid running routed nonempty

/-- Two workers, before anything has happened to them. -/
def freshPair (settings : Settings) : Simulation where
  settings := settings
  clock := 0
  nextTick := settings.schedule.tickInterval
  monitor := .start settings 2 (sourceOf settings (.ofSeed 0))
  connections := [{}, {}]
  reported := [.fleetStarted 2]

/-- A request that is answered at once, and that the connection counts. -/
def countedRequest (connection : Connection) : Behaviour String × Connection :=
  (⟨some 0, .ok "answer"⟩, { connection with callCalls := connection.callCalls + 1 })

/-- Of two workers the second one has answered a probe; a request for all workers calls it alone. -/
theorem sendRequest_dispatched_one_alive :
    let first := freshPair { configPath := "" }
    let s := (first.react (.aliveCompleted 1 0 (.ok 7))).1
    start { configPath := "" } [{}, {}] = .ok first ∧
      (s.sendRequest countedRequest .everyWorker).1 = some (.ok [(1, .ok "answer")]) ∧
        Dispatched s countedRequest .everyWorker (some (.ok [(1, .ok "answer")]))
          (s.sendRequest countedRequest .everyWorker).2 := by
  have started : start { configPath := "" } [{}, {}] = .ok (freshPair { configPath := "" }) := rfl
  have answer : (((freshPair { configPath := "" }).react (.aliveCompleted 1 0 (.ok 7))).1.sendRequest
      countedRequest .everyWorker).1 = some (.ok [(1, .ok "answer")]) := rfl
  have dispatched := sendRequest_dispatched (.reacted (.start started) (.aliveCompleted 1 0 (.ok 7)))
    countedRequest .everyWorker
  rw [answer] at dispatched
  exact ⟨started, answer, dispatched⟩

end Dispatch

end Simulation

end LiteserverFleet
