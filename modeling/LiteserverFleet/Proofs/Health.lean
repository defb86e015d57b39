import LiteserverFleet.Proofs.Passes
import LiteserverFleet.Proofs.Settings

/-!
# A health pass and the next one at the same time

A pass sends a probe to exactly those workers that wait for one behind the pass and did not before it, and it
leaves alone what probes have shown and every worker that waits already (`Swept`).  A worker that has been judged
stays as it is if it is judged once more at the same time, as long as the cooldown is not zero
(`judge_judged_again`): it waits for its probe, or its mark is of this time, or nothing has changed.  So a second
pass at the same time does nothing (`pass_settles`).
-/

set_option autoImplicit false

namespace LiteserverFleet.Health

/-- What a judgement may do to a worker: a worker that waits for its probe stays as it is, any other one keeps what
probes have shown, and at most one more retry is counted. -/
structure Kept (w next : Worker) : Prop where
  waiting : w.probeInFlight = true → next = w
  alive : next.alive = w.alive
  headSeqno : next.headSeqno = w.headSeqno
  archival : next.archival = w.archival
  archivalInFlight : next.archivalInFlight = w.archivalInFlight
  failures : w.failures ≤ next.failures ∧ next.failures ≤ w.failures + 1

/-- What a pass does to a fleet: the workers that are due are those that wait for a probe since the pass. -/
structure Swept (before : Fleet) (swept : Pass) : Prop where
  ascending : swept.due.Pairwise (· < ·)
  due : ∀ i, i ∈ swept.due ↔ ∃ w next, before[i]? = some w ∧ swept.fleet[i]? = some next ∧
    w.probeInFlight = false ∧ next.probeInFlight = true
  length : swept.fleet.length = before.length
  kept : ∀ (i : Nat) (w : Worker), before[i]? = some w →
    ∃ next, swept.fleet[i]? = some next ∧ Kept w next

section Judged

variable {settings : HealthSettings} {now : Nat} {w next : Worker} {verdict : Verdict}

theorem Judged.failures (judged : Judged settings now w verdict next) :
    w.failures ≤ next.failures ∧ next.failures ≤ w.failures + 1 := by
  cases judged with
  | retry => exact ⟨Nat.le_succ _, Nat.le_refl _⟩
  | _ => exact ⟨Nat.le_refl _, Nat.le_succ _⟩

theorem Judged.kept (judged : Judged settings now w verdict next) : Kept w next := by
  obtain ⟨alive, headSeqno, archival, archivalInFlight⟩ := judged.frame
  exact ⟨judged.stays_inFlight, alive, headSeqno, archival, archivalInFlight, judged.failures⟩

theorem Judged.of_waiting (judged : Judged settings now w verdict next)
    (waiting : w.probeInFlight = true) : verdict ≠ .probe ∧ next = w := by
  refine ⟨?_, judged.stays_inFlight waiting⟩
  intro probe
  have idle := (judged.probe_iff.mp probe).1
  simp [waiting] at idle

/-- A mark of this time holds, since no cooldown has passed yet. -/
theorem Judged.of_marked_now (judged : Judged settings now w verdict next)
    (lasting : settings.exclusionCooldown ≠ some 0) (dead : w.alive = false)
    (beyond : settings.maxFailures < w.failures) (mark : w.excludedSince = some now) :
    verdict ≠ .probe ∧ next = w := by
  cases judged with
  | inFlight | coolingDown | early | stranded => exact ⟨nofun, rfl⟩
  | marked _ _ _ unmarked => simp [mark] at unmarked
  | alive _ alive => simp [dead] at alive
  | @recovery since cooldown _ _ _ sameMark allowed late =>
      obtain rfl : now = since := Option.some.inj (mark.symm.trans sameMark)
      have zero : cooldown = 0 := by omega
      exact absurd (zero ▸ allowed) lasting
  | retry _ _ within _ _ => exact absurd within (Nat.not_le.mpr beyond)
  | first _ _ _ noFailure => omega

end Judged

/-- A worker that has been judged stays as it is at this time. -/
theorem judge_judged_again {settings : HealthSettings} (lasting : settings.exclusionCooldown ≠ some 0)
    (index now : Nat) (w : Worker) :
    let next := (judge settings index now w).worker
    (judge settings index now next).verdict ≠ .probe ∧ (judge settings index now next).worker = next := by
  intro next
  have judged : Judged settings now w (judge settings index now w).verdict next :=
    judge_judged settings index now w
  have again := judge_judged settings index now next
  by_cases probe : (judge settings index now w).verdict = .probe
  · have waiting : next.probeInFlight = true := (judged.probe_iff.mp probe).2
    exact again.of_waiting waiting
  · rcases judged.unchanged_or_marked probe with same | ⟨dead, beyond, unmarked⟩
    · rw [same]
      exact ⟨probe, same⟩
    · by_cases waiting : w.probeInFlight = true
      · have same := judged.stays_inFlight waiting
        rw [same]
        exact ⟨probe, same⟩
      · have idle : w.probeInFlight = false := by simpa using waiting
        obtain ⟨-, marked⟩ := judged.eq_marked idle dead beyond unmarked
        rw [marked] at again ⊢
        exact again.of_marked_now lasting dead beyond rfl

section Pass

variable (settings : HealthSettings) (now : Nat) (fleet : Fleet)

theorem pass_swept : Swept fleet (pass settings now fleet) where
  ascending := pass_due_ascending settings now fleet
  due := by
    intro i
    rw [mem_pass_due]
    constructor
    · rintro ⟨w, found, probe⟩
      obtain ⟨idle, waiting⟩ := (judge_judged settings i now w).probe_iff.mp probe
      refine ⟨w, (judge settings i now w).worker, found, ?_, idle, waiting⟩
      rw [pass_fleet_getElem?, found]
      rfl
    · rintro ⟨w, next, found, behind, idle, waiting⟩
      rw [pass_fleet_getElem?, found] at behind
      cases behind
      exact ⟨w, found, (judge_judged settings i now w).probe_iff.mpr ⟨idle, waiting⟩⟩
  length := pass_fleet_length settings now fleet
  kept := by
    intro i w found
    refine ⟨(judge settings i now w).worker, ?_, (judge_judged settings i now w).kept⟩
    rw [pass_fleet_getElem?, found]
    rfl

variable {settings} (lasting : settings.exclusionCooldown ≠ some 0)
include lasting

theorem pass_pass_due : (pass settings now (pass settings now fleet).fleet).due = [] := by
  rw [List.eq_nil_iff_forall_not_mem]
  intro i isDue
  obtain ⟨next, behind, probe⟩ := mem_pass_due.mp isDue
  rw [pass_fleet_getElem?] at behind
  obtain ⟨w, -, rfl⟩ := Option.map_eq_some_iff.mp behind
  exact (judge_judged_again lasting i now w).1 probe

theorem pass_pass_fleet :
    (pass settings now (pass settings now fleet).fleet).fleet = (pass settings now fleet).fleet := by
  apply List.ext_getElem?
  intro i
  simp only [pass_fleet_getElem?]
  cases fleet[i]? with
  | none => rfl
  | some w => exact congrArg some (judge_judged_again lasting i now w).2

end Pass

/-- On any fleet, a pass with accepted settings sends a probe to exactly those workers that wait for one since the
pass and touches nothing that probes have shown; the next pass at the same time does nothing. -/
theorem pass_settles (settings : Settings) (accepted : settings.validate = .ok ()) (now : Nat)
    (fleet : Fleet) :
    let first := pass settings.health now fleet
    let second := pass settings.health now first.fleet
    Swept fleet first ∧ second.due = [] ∧ second.fleet = first.fleet := by
  obtain ⟨-, -, -, -, lasting⟩ := settings.validate_eq_ok_iff.mp accepted
  exact ⟨pass_swept settings.health now fleet, pass_pass_due now fleet lasting,
    pass_pass_fleet now fleet lasting⟩

/-- An alive worker, one whose cooldown has just passed and one whose retry time has just come are probed; the one
over the ceiling without a mark is marked, and its mark holds at the same time. -/
theorem pass_settles_four_workers :
    let settings : Settings := { configPath := "net", health := { maxFailures := 1 } }
    let fleet : Fleet := [{ alive := true }, { failures := 2 }, { failures := 2, excludedSince := some 0 },
      { failures := 1, retryAt := some 300000 }]
    let first := pass settings.health 300000 fleet
    let second := pass settings.health 300000 first.fleet
    settings.validate = .ok () ∧ first.due = [0, 2, 3] ∧
      first.fleet[1]? = some { failures := 2, excludedSince := some 300000 } ∧
        second.due = [] ∧ second.fleet = first.fleet := by
  intro settings fleet first second
  have accepted : settings.validate = .ok () := rfl
  obtain ⟨-, noneDue, same⟩ := pass_settles settings accepted 300000 fleet
  exact ⟨accepted, by decide, by decide, noneDue, same⟩

end LiteserverFleet.Health
