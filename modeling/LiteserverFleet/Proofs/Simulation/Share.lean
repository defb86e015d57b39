import LiteserverFleet.Proofs.Monitor.OneWorker
import LiteserverFleet.Simulation.Session

/-!
# A simulation, seen from one worker

The share of a worker in a simulation is its record, its connection and its probes that are not
complete.  What an occurrence makes of the share of a worker depends on that share only: probes of
other workers leave it alone (`react_share?`, `fireCompletion_share?`, `completions_share?`).
-/

set_option autoImplicit false

namespace LiteserverFleet.Simulation

/-- What belongs to one worker. -/
structure Share where
  record : Worker
  connection : Connection
  pending : List Completion

def share? (s : Simulation) (i : Nat) : Option Share :=
  s.monitor.fleet[i]?.bind fun record => s.connections[i]?.map fun connection =>
    { record, connection, pending := s.outstanding.filter fun c => c.probe.worker = i }

namespace Share

def ask (i timeout clock : Nat) (share : Share) (kind : ProbeKind) : Share :=
  { share with
    connection := (share.connection.answerProbe kind).2
    pending := share.pending ++
      [.ofProbe ⟨kind, i⟩ (share.connection.answerProbe kind).1 timeout clock] }

def see (settings : Settings) (deadline i clock : Nat) (share : Share) (event : Monitor.Event) :
    Share :=
  (Monitor.kindsSent settings deadline i share.record event).foldl
    (ask i settings.health.probeTimeout clock)
    { share with record := Monitor.workerAfter settings deadline i share.record event }

def complete (settings : Settings) (deadline i clock : Nat) (share : Share) (c : Completion) : Share :=
  { share with
    record := Monitor.workerAfter settings deadline i share.record
      (c.event settings.health.probeTimeout clock)
    pending := share.pending.eraseP fun d => d.probe = c.probe }

end Share

theorem share?_eq_some {s : Simulation} {i : Nat} {record : Worker} {connection : Connection}
    (found : s.monitor.fleet[i]? = some record) (linked : s.connections[i]? = some connection) :
    s.share? i = some
      { record, connection, pending := s.outstanding.filter fun c => c.probe.worker = i } := by
  simp [share?, found, linked]

theorem of_share? {s : Simulation} {i : Nat} {share : Share} (isShare : s.share? i = some share) :
    s.monitor.fleet[i]? = some share.record ∧ s.connections[i]? = some share.connection ∧
      share.pending = s.outstanding.filter fun c => c.probe.worker = i := by
  obtain ⟨record, found, rest⟩ := Option.bind_eq_some_iff.mp isShare
  obtain ⟨connection, linked, rfl⟩ := Option.map_eq_some_iff.mp rest
  exact ⟨found, linked, rfl⟩

/-! ## Sending -/

/-- Sending a probe adds at most one completion to come, and nothing else but the connection that is
asked. -/
theorem send_spec (s : Simulation) (probe : Probe) :
    ∃ connections outstanding, s.send probe = { s with connections, outstanding } ∧
      connections.length = s.connections.length ∧
      outstanding.length ≤ s.outstanding.length + 1 ∧
      ∀ c ∈ outstanding, c ∈ s.outstanding ∨ (c.sentAt = s.clock ∧ s.clock ≤ c.due) := by
  unfold send
  cases linked : s.connections[probe.worker]? with
  | none =>
      refine ⟨s.connections, s.outstanding, rfl, rfl, Nat.le_succ _, ?_⟩
      intro c member
      exact .inl member
  | some connection =>
      refine ⟨_, _, rfl, List.length_set, by simp, ?_⟩
      intro c member
      rcases List.mem_append.mp member with before | new
      · exact .inl before
      · rw [List.mem_singleton.mp new]
        exact .inr ⟨rfl, Nat.le_add_right _ _⟩

theorem sends_spec (sent : List Probe) (s : Simulation) :
    ∃ connections outstanding, sent.foldl send s = { s with connections, outstanding } ∧
      connections.length = s.connections.length ∧
      outstanding.length ≤ s.outstanding.length + sent.length ∧
      ∀ c ∈ outstanding, c ∈ s.outstanding ∨ (c.sentAt = s.clock ∧ s.clock ≤ c.due) := by
  induction sent generalizing s with
  | nil =>
      refine ⟨s.connections, s.outstanding, rfl, rfl, Nat.le_refl _, ?_⟩
      intro c member
      exact .inl member
  | cons probe rest ih =>
      obtain ⟨connections, outstanding, sentOne, sameLength, oneMore, origin⟩ := send_spec s probe
      obtain ⟨allConnections, all, sentAll, stillSame, more, origins⟩ := ih (s.send probe)
      refine ⟨allConnections, all, ?_, ?_, ?_, ?_⟩
      · rw [List.foldl_cons, sentAll, sentOne]
      · rw [stillSame, sentOne, sameLength]
      · rw [sentOne] at more
        simp only [List.length_cons] at more ⊢
        omega
      · intro c member
        rcases origins c member with before | new
        · rw [sentOne] at before
          exact origin c before
        · rw [sentOne] at new
          exact .inr new

theorem send_share? (s : Simulation) (probe : Probe) (i : Nat) :
    (s.send probe).share? i =
      if probe.worker = i then
        (s.share? i).map fun share =>
          share.ask i s.settings.health.probeTimeout s.clock probe.kind
      else s.share? i := by
  obtain ⟨kind, worker⟩ := probe
  unfold send
  by_cases same : worker = i
  · subst same
    rw [if_pos rfl]
    cases linked : s.connections[worker]? with
    | none => simp [share?, linked]
    | some connection =>
        obtain ⟨present, isConnection⟩ := List.getElem?_eq_some_iff.mp linked
        cases found : s.monitor.fleet[worker]? with
        | none => simp [share?, found]
        | some record =>
            simp [share?, found, present, isConnection, Share.ask, Completion.ofProbe]
  · rw [if_neg same]
    cases linked : s.connections[worker]? with
    | none => rfl
    | some connection =>
        simp [share?, List.getElem?_set_ne same, Completion.ofProbe, same]

theorem sends_share? (sent : List Probe) (s : Simulation) (i : Nat) :
    (sent.foldl send s).share? i = (s.share? i).map fun share =>
      ((sent.filter fun probe => probe.worker = i).map Probe.kind).foldl
        (Share.ask i s.settings.health.probeTimeout s.clock) share := by
  induction sent generalizing s with
  | nil => simp
  | cons probe rest ih =>
      obtain ⟨connections, outstanding, sentOne, -⟩ := send_spec s probe
      have settings : (s.send probe).settings = s.settings := by rw [sentOne]
      have clock : (s.send probe).clock = s.clock := by rw [sentOne]
      rw [List.foldl_cons, ih, settings, clock, send_share?]
      by_cases same : probe.worker = i
      · simp [same, Function.comp_def]
      · simp [same]

/-! ## Events -/

theorem react_spec (s : Simulation) (event : Monitor.Event) :
    ∃ connections outstanding reported,
      (s.react event).1 =
        { s with
          monitor := (s.monitor.step s.settings event).monitor, connections, outstanding, reported } ∧
      connections.length = s.connections.length ∧
      outstanding.length ≤ s.outstanding.length + (s.monitor.step s.settings event).sent.length ∧
      ∀ c ∈ outstanding, c ∈ s.outstanding ∨ (c.sentAt = s.clock ∧ s.clock ≤ c.due) := by
  obtain ⟨connections, outstanding, sentAll, sameLength, more, origin⟩ :=
    sends_spec (s.monitor.step s.settings event).sent
      { s with
        monitor := (s.monitor.step s.settings event).monitor
        reported := (s.monitor.step s.settings event).notices.reverse ++ s.reported }
  exact ⟨connections, outstanding, _, sentAll, sameLength, more, origin⟩

/-- An event that sends nothing changes the monitor only, and what is reported. -/
theorem react_eq_of_nothing_sent (s : Simulation) (event : Monitor.Event)
    (nothing : (s.monitor.step s.settings event).sent = []) :
    (s.react event).1 =
      { s with
        monitor := (s.monitor.step s.settings event).monitor
        reported := (s.monitor.step s.settings event).notices.reverse ++ s.reported } := by
  simp [react, nothing]

theorem react_share? (s : Simulation) (event : Monitor.Event) (i : Nat) :
    (s.react event).1.share? i = (s.share? i).map fun share =>
      share.see s.settings s.monitor.archivalDeadline i s.clock event := by
  have sent := Monitor.step_sent_filter s.settings s.monitor event i
  have after := Monitor.step_fleet_getElem? s.settings s.monitor event i
  simp only [react, sends_share?, sent, List.map_map]
  cases found : s.monitor.fleet[i]? with
  | none => simp [share?, found, after]
  | some record =>
      cases linked : s.connections[i]? with
      | none => simp [share?, linked]
      | some connection =>
          simp [share?, found, linked, after, Share.see, Function.comp_def]

/-! ## Completions -/

theorem completion_sends_nothing (m : Monitor Random.Keystream) (settings : Settings) (c : Completion)
    (timeout now : Nat) : (m.step settings (c.event timeout now)).sent = [] := by
  unfold Completion.event
  cases c.probe.kind <;> rfl

theorem completion_deadline (m : Monitor Random.Keystream) (settings : Settings) (c : Completion)
    (timeout now : Nat) :
    (m.step settings (c.event timeout now)).monitor.archivalDeadline = m.archivalDeadline := by
  rw [Monitor.step_deadline]
  unfold Completion.event
  cases c.probe.kind <;> rfl

theorem fireCompletion_eq (s : Simulation) (c : Completion) :
    ∃ reported, s.fireCompletion c =
      { s with
        clock := max s.clock c.due
        outstanding := s.outstanding.eraseP fun d => d.probe = c.probe
        monitor := (s.monitor.step s.settings
          (c.event s.settings.health.probeTimeout (max s.clock c.due))).monitor
        reported } :=
  ⟨_, react_eq_of_nothing_sent _ _ (completion_sends_nothing _ _ _ _ _)⟩

theorem filter_eraseP_worker (pending : List Completion) (probe : Probe) (i : Nat) :
    (pending.eraseP fun d => d.probe = probe).filter (fun d => d.probe.worker = i) =
      if probe.worker = i then
        (pending.filter fun d => d.probe.worker = i).eraseP fun d => d.probe = probe
      else pending.filter fun d => d.probe.worker = i := by
  induction pending with
  | nil => simp
  | cons first rest ih =>
      by_cases hit : first.probe = probe
      · by_cases same : probe.worker = i
        · simp [hit, same]
        · simp [hit, same]
      · by_cases same : probe.worker = i
        · by_cases other : first.probe.worker = i
          · simp only [same, if_true] at ih
            simp [hit, same, other, ih]
          · simp only [same, if_true] at ih
            simp [hit, same, other, ih]
        · simp only [same, if_false] at ih
          by_cases other : first.probe.worker = i
          · simp [hit, same, other, ih]
          · simp [hit, same, other, ih]

theorem fireCompletion_share? (s : Simulation) (c : Completion) (i : Nat) :
    (s.fireCompletion c).share? i =
      if c.probe.worker = i then
        (s.share? i).map fun share =>
          share.complete s.settings s.monitor.archivalDeadline i (max s.clock c.due) c
      else s.share? i := by
  obtain ⟨reported, fired⟩ := fireCompletion_eq s c
  rw [fired]
  simp only [share?, filter_eraseP_worker, Monitor.step_fleet_getElem?]
  cases found : s.monitor.fleet[i]? with
  | none => simp
  | some record =>
      by_cases same : c.probe.worker = i
      · simp [same, Share.complete, Function.comp_def]
      · have untouched : Monitor.workerAfter s.settings s.monitor.archivalDeadline i record
            (c.event s.settings.health.probeTimeout (max s.clock c.due)) = record := by
          unfold Completion.event
          cases c.probe.kind <;> exact if_neg same
        simp [same, untouched]

/-- Completions that are due change neither the clock nor anything that sends; they only take from what
is outstanding. -/
theorem completions_spec (due : List Completion) (s : Simulation) (past : ∀ c ∈ due, c.due ≤ s.clock) :
    ∃ monitor outstanding reported,
      due.foldl fireCompletion s = { s with monitor, outstanding, reported } ∧
      monitor.fleet.length = s.monitor.fleet.length ∧
      monitor.archivalDeadline = s.monitor.archivalDeadline ∧
      outstanding.Sublist s.outstanding := by
  induction due generalizing s with
  | nil => exact ⟨s.monitor, s.outstanding, s.reported, rfl, rfl, rfl, .refl _⟩
  | cons c rest ih =>
      obtain ⟨reported, fired⟩ := fireCompletion_eq s c
      have clock : max s.clock c.due = s.clock := Nat.max_eq_left (past c List.mem_cons_self)
      rw [clock] at fired
      obtain ⟨monitor, outstanding, allReported, done, sameLength, sameDeadline, fewer⟩ :=
        ih (s.fireCompletion c) (by
          rw [fired]
          intro d member
          exact past d (List.mem_cons_of_mem _ member))
      refine ⟨monitor, outstanding, allReported, ?_, ?_, ?_, ?_⟩
      · rw [List.foldl_cons, done, fired]
      · rw [sameLength, fired, Monitor.step_fleet_length]
      · rw [sameDeadline, fired]
        exact completion_deadline s.monitor s.settings c _ _
      · rw [fired] at fewer
        exact fewer.trans List.eraseP_sublist

theorem completions_share? (due : List Completion) (s : Simulation) (i : Nat)
    (past : ∀ c ∈ due, c.due ≤ s.clock) :
    (due.foldl fireCompletion s).share? i = (s.share? i).map fun share =>
      (due.filter fun c => c.probe.worker = i).foldl
        (Share.complete s.settings s.monitor.archivalDeadline i s.clock) share := by
  induction due generalizing s with
  | nil => simp
  | cons c rest ih =>
      obtain ⟨reported, fired⟩ := fireCompletion_eq s c
      have clock : max s.clock c.due = s.clock := Nat.max_eq_left (past c List.mem_cons_self)
      rw [clock] at fired
      have settings : (s.fireCompletion c).settings = s.settings := by rw [fired]
      have stillClock : (s.fireCompletion c).clock = s.clock := by rw [fired]
      have deadline : (s.fireCompletion c).monitor.archivalDeadline = s.monitor.archivalDeadline := by
        rw [fired]
        exact completion_deadline s.monitor s.settings c _ _
      rw [List.foldl_cons, ih, settings, stillClock, deadline, fireCompletion_share?, clock]
      · by_cases same : c.probe.worker = i
        · simp [same, Function.comp_def]
        · simp [same]
      · rw [stillClock]
        intro d member
        exact past d (List.mem_cons_of_mem _ member)

end LiteserverFleet.Simulation
