import LiteserverFleet.Monitor
import Mathlib.Data.List.Nodup

/-!
# The passes over a fleet

`Judged` lists the nine ways in which a worker can be judged, each with what it takes and what
becomes of the worker; `judge_judged` says that there are no others.  A pass treats every worker
apart from all others: the worker at an index behind it depends on the worker at that index before
it only, and the indices that are due come ascending, each once.
-/

set_option autoImplicit false

namespace LiteserverFleet

/-- A worker with what its archival probes have shown replaced. -/
def Worker.withArchival (w : Worker) (archival waiting : Bool) : Worker :=
  { w with archival := archival, archivalInFlight := waiting }

namespace Health

/-- The ways in which a worker can be judged at a time: the verdict, and what becomes of the
worker. -/
inductive Judged (settings : HealthSettings) (now : Nat) (w : Worker) : Verdict → Worker → Prop where
  | inFlight (waiting : w.probeInFlight = true) : Judged settings now w .inFlight w
  | alive (idle : w.probeInFlight = false) (alive : w.alive = true) :
      Judged settings now w .probe { w with probeInFlight := true }
  | marked (idle : w.probeInFlight = false) (dead : w.alive = false)
      (beyond : settings.maxFailures < w.failures) (unmarked : w.excludedSince = none) :
      Judged settings now w .excluded { w with excludedSince := some now }
  | coolingDown {since : Nat} (idle : w.probeInFlight = false) (dead : w.alive = false)
      (beyond : settings.maxFailures < w.failures) (mark : w.excludedSince = some since)
      (early : ∀ cooldown, settings.exclusionCooldown = some cooldown → now - since < cooldown) :
      Judged settings now w .excluded w
  | recovery {since cooldown : Nat} (idle : w.probeInFlight = false) (dead : w.alive = false)
      (beyond : settings.maxFailures < w.failures) (mark : w.excludedSince = some since)
      (allowed : settings.exclusionCooldown = some cooldown) (late : cooldown ≤ now - since) :
      Judged settings now w .probe
        { w with probeInFlight := true, excludedSince := some now, retryAt := none }
  | retry {time : Nat} (idle : w.probeInFlight = false) (dead : w.alive = false)
      (within : w.failures ≤ settings.maxFailures) (deadline : w.retryAt = some time)
      (reached : time ≤ now) :
      Judged settings now w .probe
        { w with probeInFlight := true, retryAt := none, failures := w.failures + 1 }
  | early {time : Nat} (idle : w.probeInFlight = false) (dead : w.alive = false)
      (within : w.failures ≤ settings.maxFailures) (deadline : w.retryAt = some time)
      (notYet : now < time) : Judged settings now w .waitingForRetry w
  | first (idle : w.probeInFlight = false) (dead : w.alive = false)
      (noDeadline : w.retryAt = none) (noFailure : w.failures = 0) :
      Judged settings now w .probe { w with probeInFlight := true }
  | stranded (idle : w.probeInFlight = false) (dead : w.alive = false)
      (within : w.failures ≤ settings.maxFailures) (noDeadline : w.retryAt = none)
      (failed : w.failures ≠ 0) : Judged settings now w .waitingForRetry w

theorem judgeExcluded_judged (settings : HealthSettings) (index now : Nat) (w : Worker)
    (idle : w.probeInFlight = false) (dead : w.alive = false)
    (beyond : settings.maxFailures < w.failures) :
    Judged settings now w (judgeExcluded settings index now w).verdict
      (judgeExcluded settings index now w).worker := by
  unfold judgeExcluded
  cases mark : w.excludedSince with
  | none => exact .marked idle dead beyond mark
  | some since =>
      cases allowed : settings.exclusionCooldown with
      | none =>
          have early : ∀ cooldown, settings.exclusionCooldown = some cooldown →
              now - since < cooldown := by simp [allowed]
          simpa using Judged.coolingDown idle dead beyond mark early
      | some cooldown =>
          by_cases late : cooldown ≤ now - since
          · simpa [sendProbe, late] using Judged.recovery idle dead beyond mark allowed late
          · have early : ∀ limit, settings.exclusionCooldown = some limit → now - since < limit := by
              intro limit isLimit
              have same : cooldown = limit := by simpa [allowed] using isLimit
              omega
            simpa [late] using Judged.coolingDown idle dead beyond mark early

theorem judge_judged (settings : HealthSettings) (index now : Nat) (w : Worker) :
    Judged settings now w (judge settings index now w).verdict
      (judge settings index now w).worker := by
  unfold judge
  by_cases waiting : w.probeInFlight = true
  · simpa [waiting] using Judged.inFlight waiting
  · have idle : w.probeInFlight = false := by simpa using waiting
    rw [if_neg waiting]
    by_cases alive : w.alive = true
    · rw [if_pos alive]
      exact .alive idle alive
    · have dead : w.alive = false := by simpa using alive
      rw [if_neg alive]
      by_cases beyond : settings.maxFailures < w.failures
      · rw [if_pos beyond]
        exact judgeExcluded_judged settings index now w idle dead beyond
      · have within : w.failures ≤ settings.maxFailures := by omega
        rw [if_neg beyond]
        cases deadline : w.retryAt with
        | some time =>
            by_cases reached : time ≤ now
            · simpa [sendProbe, reached] using Judged.retry idle dead within deadline reached
            · simpa [reached] using Judged.early idle dead within deadline (by omega)
        | none =>
            by_cases noFailure : w.failures = 0
            · simpa [sendProbe, noFailure] using Judged.first idle dead deadline noFailure
            · simpa [noFailure] using Judged.stranded idle dead within deadline noFailure

section Judged

variable {settings : HealthSettings} {now : Nat} {w next : Worker} {verdict : Verdict}

/-- A judgement leaves alone what completed probes have shown, and the archival probe. -/
theorem Judged.frame (judged : Judged settings now w verdict next) :
    next.alive = w.alive ∧ next.headSeqno = w.headSeqno ∧ next.archival = w.archival ∧
      next.archivalInFlight = w.archivalInFlight := by
  cases judged <;> exact ⟨rfl, rfl, rfl, rfl⟩

theorem Judged.probe_iff (judged : Judged settings now w verdict next) :
    verdict = .probe ↔ w.probeInFlight = false ∧ next.probeInFlight = true := by
  cases judged with
  | inFlight waiting => simp [waiting]
  | alive idle _ => simp [idle]
  | marked idle _ _ _ => simp [idle]
  | coolingDown idle _ _ _ _ => simp [idle]
  | recovery idle _ _ _ _ _ => simp [idle]
  | retry idle _ _ _ _ => simp [idle]
  | early idle _ _ _ _ => simp [idle]
  | first idle _ _ _ => simp [idle]
  | stranded idle _ _ _ _ => simp [idle]

theorem Judged.stays_inFlight (judged : Judged settings now w verdict next)
    (waiting : w.probeInFlight = true) : next = w := by
  cases judged with
  | inFlight => rfl
  | alive idle _ => simp [waiting] at idle
  | marked idle _ _ _ => simp [waiting] at idle
  | coolingDown => rfl
  | recovery idle _ _ _ _ _ => simp [waiting] at idle
  | retry idle _ _ _ _ => simp [waiting] at idle
  | early => rfl
  | first idle _ _ _ => simp [waiting] at idle
  | stranded => rfl

/-- A judgement that sends no probe leaves an idle worker as it is, unless it marks it. -/
theorem Judged.unchanged_or_marked (judged : Judged settings now w verdict next)
    (noProbe : verdict ≠ .probe) :
    next = w ∨
      (w.alive = false ∧ settings.maxFailures < w.failures ∧ w.excludedSince = none) := by
  cases judged with
  | inFlight | coolingDown | early | stranded => exact .inl rfl
  | marked idle dead beyond unmarked => exact .inr ⟨dead, beyond, unmarked⟩
  | alive | recovery | retry | first => exact absurd rfl noProbe

theorem Judged.eq_marked (judged : Judged settings now w verdict next)
    (idle : w.probeInFlight = false) (dead : w.alive = false)
    (beyond : settings.maxFailures < w.failures) (unmarked : w.excludedSince = none) :
    verdict = .excluded ∧ next = { w with excludedSince := some now } := by
  cases judged with
  | marked => exact ⟨rfl, rfl⟩
  | inFlight waiting => simp [idle] at waiting
  | alive _ alive => simp [dead] at alive
  | coolingDown _ _ _ mark _ => simp [unmarked] at mark
  | recovery _ _ _ mark _ _ => simp [unmarked] at mark
  | first _ _ _ noFailure => omega
  | retry _ _ within _ _ => exact absurd within (Nat.not_le.mpr beyond)
  | early _ _ within _ _ => exact absurd within (Nat.not_le.mpr beyond)
  | stranded _ _ within _ _ => exact absurd within (Nat.not_le.mpr beyond)

end Judged

/-! ## The health pass -/

theorem probedFrom_eq_findIdxs (first : Nat) (judged : List Judgement) :
    probedFrom first judged = judged.findIdxs (fun j => j.verdict = .probe) first := by
  induction judged generalizing first with
  | nil => rfl
  | cons j rest ih =>
      simp only [probedFrom, List.findIdxs_cons, ih, decide_eq_true_eq]

theorem pass_fleet_getElem? (settings : HealthSettings) (now : Nat) (fleet : Fleet) (i : Nat) :
    (pass settings now fleet).fleet[i]? =
      fleet[i]?.map fun w => (judge settings i now w).worker := by
  simp [pass, judgements, Function.comp_def]

theorem pass_fleet_length (settings : HealthSettings) (now : Nat) (fleet : Fleet) :
    (pass settings now fleet).fleet.length = fleet.length := by
  simp [pass, judgements]

theorem pass_due_ascending (settings : HealthSettings) (now : Nat) (fleet : Fleet) :
    (pass settings now fleet).due.Pairwise (· < ·) := by
  simp only [pass, probedFrom_eq_findIdxs]
  exact List.pairwise_findIdxs

theorem mem_pass_due {settings : HealthSettings} {now : Nat} {fleet : Fleet} {i : Nat} :
    i ∈ (pass settings now fleet).due ↔
      ∃ w, fleet[i]? = some w ∧ (judge settings i now w).verdict = .probe := by
  simp only [pass, probedFrom_eq_findIdxs, judgements, List.mem_findIdxs_iff_exists_getElem_pos,
    List.getElem_mapIdx, List.length_mapIdx, decide_eq_true_eq, List.getElem?_eq_some_iff]
  grind

end Health

namespace Archival

/-! ## The archival pass -/

def mark (w : Worker) : Worker :=
  if isDue w then { w with archivalInFlight := true } else w

theorem dueFrom_eq_findIdxs (first : Nat) (fleet : Fleet) :
    dueFrom first fleet = fleet.findIdxs isDue first := by
  induction fleet generalizing first with
  | nil => rfl
  | cons w rest ih => simp only [dueFrom, List.findIdxs_cons, ih]

theorem pass_fleet_getElem? (fleet : Fleet) (i : Nat) :
    (pass fleet).fleet[i]? = fleet[i]?.map mark := by
  simp only [pass, List.getElem?_map]
  rfl

theorem pass_fleet_length (fleet : Fleet) : (pass fleet).fleet.length = fleet.length := by
  simp [pass]

theorem pass_due_ascending (fleet : Fleet) : (pass fleet).due.Pairwise (· < ·) := by
  simp only [pass, dueFrom_eq_findIdxs]
  exact List.pairwise_findIdxs

theorem mem_pass_due {fleet : Fleet} {i : Nat} :
    i ∈ (pass fleet).due ↔ ∃ w, fleet[i]? = some w ∧ isDue w = true := by
  simp only [pass, dueFrom_eq_findIdxs, List.mem_findIdxs_iff_exists_getElem_pos,
    List.getElem?_eq_some_iff]
  grind

/-- An archival pass touches nothing but the flag of the archival probe. -/
theorem mark_eq (w : Worker) :
    mark w = w.withArchival w.archival (w.archivalInFlight || w.alive) := by
  cases w with
  | mk alive probeInFlight headSeqno failures retryAt archival archivalInFlight excludedSince =>
      cases alive <;> cases archivalInFlight <;> rfl

end Archival

end LiteserverFleet
