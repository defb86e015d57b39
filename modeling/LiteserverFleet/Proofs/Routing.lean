import LiteserverFleet.Proofs.Random.Draws
import LiteserverFleet.Worker
import Mathlib.Data.List.Sort

/-!
# What a selection routes to

The candidates of a fleet are its alive workers, or those of them with full history.  Whatever a policy
asks for, it gets candidates only, none of them twice, and as many as there are
(`select?_spec`); a snapshot of the fleet routes in the same way as the fleet.  A selection has no
result only if it draws, and all words behind some place of the source are refused.  The candidates ascend, and the
binary search for a single one of them relies on this (`binSearchContains_iff`).
-/

set_option autoImplicit false

namespace LiteserverFleet

/-- The worker at an index is alive, and has full history if that is asked for. -/
def Fleet.Candidate (fleet : Fleet) (archival : Bool) (i : Nat) : Prop :=
  ∃ w, fleet[i]? = some w ∧ w.alive = true ∧ (archival = true → w.archival = true)

/-- How many workers are candidates. -/
def Fleet.candidateCount (fleet : Fleet) (archival : Bool) : Nat :=
  fleet.countP fun w => w.alive && (!archival || w.archival)

namespace Routing

open LiteserverFleet.Random (Refuses skip)

/-- What each policy routes to. -/
def Serves (fleet : Fleet) (archival : Bool) (chosen : List Nat) : Policy → Prop
  | .broadcast => chosen.Pairwise (· < ·) ∧ ∀ i, i ∈ chosen ↔ fleet.Candidate archival i
  | .single (some i) =>
      (fleet.Candidate archival i → chosen = [i]) ∧ (¬ fleet.Candidate archival i → chosen = [])
  | .single none => chosen.length = min 1 (fleet.candidateCount archival)
  | .indices wanted =>
      chosen.Pairwise (· < ·) ∧ ∀ i, i ∈ chosen ↔ i ∈ wanted.toList ∧ fleet.Candidate archival i
  | .count n => chosen.length = min n (fleet.candidateCount archival)

structure Routed (fleet : Fleet) (selection : Selection) (chosen : List Nat) : Prop where
  distinct : chosen.Nodup
  candidates : ∀ i ∈ chosen, fleet.Candidate selection.archival i
  served : Serves fleet selection.archival chosen selection.policy

/-- The policies that leave a choice. -/
def Draws : Policy → Prop
  | .single none | .count _ => True
  | _ => False

/-! ## Candidates -/

section Candidates

variable {ω : Type} [Eligible ω] {archival : Bool}

theorem candidatesFrom_eq_findIdxs (first : Nat) (workers : List ω) :
    candidatesFrom archival first workers = workers.findIdxs (isCandidate archival) first := by
  induction workers generalizing first with
  | nil => rfl
  | cons worker rest ih => simp only [candidatesFrom, List.findIdxs_cons, ih]

theorem candidates_ascending (archival : Bool) (workers : List ω) :
    (candidates archival workers).Pairwise (· < ·) := by
  simp only [candidates, candidatesFrom_eq_findIdxs]
  exact List.pairwise_findIdxs

theorem candidates_length (archival : Bool) (workers : List ω) :
    (candidates archival workers).length = workers.countP (isCandidate archival) := by
  simp only [candidates, candidatesFrom_eq_findIdxs]
  exact List.length_findIdxs

theorem mem_candidates {fleet : Fleet} {i : Nat} :
    i ∈ candidates archival fleet ↔ fleet.Candidate archival i := by
  simp only [candidates, candidatesFrom_eq_findIdxs, List.mem_findIdxs_iff_exists_getElem_pos,
    Fleet.Candidate, List.getElem?_eq_some_iff, isCandidate, Eligible.isAlive, Eligible.isArchival]
  grind

theorem candidates_eq_nil {fleet : Fleet} (none : candidates archival fleet = []) (i : Nat) :
    ¬ fleet.Candidate archival i := by
  rw [← mem_candidates, none]
  exact List.not_mem_nil

/-- A status classifies a worker as its record does. -/
theorem candidates_snapshot (fleet : Fleet) :
    candidates archival fleet.snapshot = candidates archival fleet := by
  have same (i : Nat) (w : Worker) :
      isCandidate archival (w.status i) = isCandidate archival w := rfl
  have all (first : Nat) (index : Nat → Nat) (workers : Fleet) :
      candidatesFrom archival first (workers.mapIdx fun i w => w.status (index i)) =
        candidatesFrom archival first workers := by
    induction workers generalizing first index with
    | nil => rfl
    | cons w rest ih =>
        simp only [List.mapIdx_cons, candidatesFrom, same, ih]
  exact all 0 id fleet

end Candidates

/-! ## Searching the candidates -/

section Search

variable {xs : Array Nat} {index : Nat}

/-- Of an ascending array, smaller elements stand in front of greater ones. -/
theorem lt_of_ascending (ascending : xs.toList.Pairwise (· < ·)) {i j a b : Nat} (atI : xs[i]? = some a)
    (atJ : xs[j]? = some b) (less : a < b) : i < j := by
  obtain ⟨inside, rfl⟩ := Array.getElem?_eq_some_iff.mp atI
  obtain ⟨insideToo, rfl⟩ := Array.getElem?_eq_some_iff.mp atJ
  exact ascending.sortedLT.getElem_lt_getElem_iff.mp less

/-- A binary search finds what stands between its bounds, because what it leaves out is on the wrong side of the
middle. -/
theorem binSearchAux_iff {lo : Fin (xs.size + 1)} {hi : Fin xs.size} (within : lo.val ≤ hi.val)
    (ascending : xs.toList.Pairwise (· < ·)) :
    Array.binSearchAux (fun a b => decide (a < b)) Option.isSome xs index lo hi within = true ↔
      ∃ i, lo.val ≤ i ∧ i ≤ hi.val ∧ xs[i]? = some index := by
  fun_induction Array.binSearchAux with
  | case1 lo hi within middle a below _ _ ih =>
    have atMiddle : xs[middle]? = some a := Array.getElem?_eq_getElem _
    rw [ih]
    constructor
    · rintro ⟨i, behind, inside, found⟩
      refine ⟨i, ?_, inside, found⟩
      simp only at behind
      omega
    · rintro ⟨i, -, inside, found⟩
      exact ⟨i, lt_of_ascending ascending atMiddle found (of_decide_eq_true below), inside, found⟩
  | case2 lo hi within middle a below last _ =>
    have atMiddle : xs[middle]? = some a := Array.getElem?_eq_getElem _
    refine ⟨nofun, ?_⟩
    rintro ⟨i, -, inside, found⟩
    have behind := lt_of_ascending ascending atMiddle found (of_decide_eq_true below)
    omega
  | case3 lo hi within middle a _ above first _ =>
    have atMiddle : xs[middle]? = some a := Array.getElem?_eq_getElem _
    refine ⟨nofun, ?_⟩
    rintro ⟨i, inside, -, found⟩
    have inFront := lt_of_ascending ascending found atMiddle (of_decide_eq_true above)
    omega
  | case4 lo hi within middle a _ above _ _ ih =>
    have atMiddle : xs[middle]? = some a := Array.getElem?_eq_getElem _
    rw [ih]
    constructor
    · rintro ⟨i, inside, inFront, found⟩
      refine ⟨i, inside, ?_, found⟩
      simp only at inFront
      omega
    · rintro ⟨i, inside, -, found⟩
      have inFront := lt_of_ascending ascending found atMiddle (of_decide_eq_true above)
      exact ⟨i, inside, Nat.le_sub_one_of_lt inFront, found⟩
  | case5 lo hi within middle a notBelow notAbove _ =>
    have same : a = index := by
      simp only [decide_eq_true_eq] at notBelow notAbove
      omega
    have atMiddle : xs[middle]? = some a := Array.getElem?_eq_getElem _
    refine ⟨fun _ => ⟨middle, ?_, ?_, same ▸ atMiddle⟩, fun _ => rfl⟩ <;> omega

/-- What a binary search finds in a list is what the list holds, as long as it is ascending. -/
theorem binSearchContains_iff {xs : List Nat} (ascending : xs.Pairwise (· < ·)) :
    xs.toArray.binSearchContains index (· < ·) = true ↔ index ∈ xs := by
  rw [Array.binSearchContains, List.mem_iff_getElem?]
  split
  · next nonempty =>
    rw [dif_pos (Nat.zero_le _), binSearchAux_iff _ ascending]
    simp only [List.getElem?_toArray, ite_self, Nat.zero_le, true_and]
    refine exists_congr fun i => and_iff_right_of_imp fun found => ?_
    obtain ⟨inside, -⟩ := List.getElem?_eq_some_iff.mp found
    exact Nat.le_sub_one_of_lt inside
  · next empty =>
    refine ⟨nofun, ?_⟩
    rintro ⟨i, found⟩
    obtain ⟨inside, -⟩ := List.getElem?_eq_some_iff.mp found
    exact absurd (Nat.zero_lt_of_lt inside) empty

end Search

/-! ## Selections -/

section Select

variable {σ : Type} [WordSource σ] {fleet : Fleet} {selection : Selection} {source rest : σ}
  {chosen : List Nat}

/-- What is routed to is determined by the candidates. -/
theorem select?_congr {ω ω' : Type} [Eligible ω] [Eligible ω'] {workers : List ω}
    {others : List ω'} (selection : Selection) (source : σ)
    (same : candidates selection.archival workers = candidates selection.archival others) :
    select? workers selection source = select? others selection source := by
  unfold select?
  rw [same]

/-- A worker that is asked for by index is routed to if it is a candidate, since the search for it finds it then. -/
theorem select?_pinned {i : Nat} (pinned : selection.policy = .single (some i)) (source : σ) :
    select? fleet selection source =
      some (if i ∈ candidates selection.archival fleet then [i] else [], source) := by
  unfold select?
  dsimp only
  split
  · next empty =>
    rw [List.isEmpty_iff.mp empty, if_neg List.not_mem_nil]
  · rw [pinned]
    simp only [binSearchContains_iff (candidates_ascending selection.archival fleet)]

/-- The ways in which a selection is served from its candidates. -/
inductive Picked (eligible : List Nat) (source : σ) : Policy → List Nat → σ → Prop where
  | nothing {policy : Policy} (empty : eligible = []) : Picked eligible source policy [] source
  | broadcast : Picked eligible source .broadcast eligible source
  | pinned {i : Nat} (present : i ∈ eligible) :
      Picked eligible source (.single (some i)) [i] source
  | unpinned {i : Nat} (absent : i ∉ eligible) : Picked eligible source (.single (some i)) [] source
  | any {i : Nat} {rest : σ} (chosen : Random.choose? eligible source = some (i, rest)) :
      Picked eligible source (.single none) [i] rest
  | indices (wanted : IndexSet) :
      Picked eligible source (.indices wanted) (eligible.filter wanted.contains) source
  | count {order : List Nat} {rest : σ} (n : Nat)
      (shuffled : Random.shuffle? eligible source = some (order, rest)) :
      Picked eligible source (.count n) (order.take n) rest

theorem picked_of_select? (served : select? fleet selection source = some (chosen, rest)) :
    Picked (candidates selection.archival fleet) source selection.policy chosen rest := by
  have selected := served
  unfold select? at selected
  dsimp only at selected
  split at selected
  · next empty =>
    cases Option.some.inj selected
    exact .nothing (List.isEmpty_iff.mp empty)
  · split at selected
    · next policy =>
      cases Option.some.inj selected
      rw [policy]
      exact .broadcast
    · next i policy =>
      rw [select?_pinned policy] at served
      cases Option.some.inj served
      rw [policy]
      split
      · next present => exact .pinned present
      · next absent => exact .unpinned absent
    · next policy =>
      obtain ⟨⟨i, behind⟩, picked, same⟩ := Option.map_eq_some_iff.mp selected
      cases same
      rw [policy]
      exact .any picked
    · next wanted policy =>
      cases Option.some.inj selected
      rw [policy]
      exact .indices wanted
    · next n policy =>
      obtain ⟨⟨order, behind⟩, shuffled, same⟩ := Option.map_eq_some_iff.mp selected
      cases same
      rw [policy]
      exact .count n shuffled

/-- A selection without a result draws, and some draw of it does not complete. -/
theorem refuses_of_select? (failed : select? fleet selection source = none) :
    Draws selection.policy ∧ ∃ place faces, 0 < faces ∧
      faces ≤ fleet.candidateCount selection.archival ∧ Refuses faces (skip place source) := by
  have count := candidates_length selection.archival fleet
  change _ = fleet.candidateCount selection.archival at count
  unfold select? at failed
  dsimp only at failed
  split at failed
  · cases failed
  · next notEmpty =>
    have nonempty : candidates selection.archival fleet ≠ [] := by simpa using notEmpty
    split at failed
    · cases failed
    · cases failed
    · next policy =>
      have refuses := Random.choose?_eq_none nonempty (Option.map_eq_none_iff.mp failed)
      rw [policy, ← count]
      exact ⟨trivial, 0, _, List.length_pos_of_ne_nil nonempty, Nat.le_refl _, refuses⟩
    · cases failed
    · next n policy =>
      rw [policy, ← count]
      exact ⟨trivial, Random.shuffle?_eq_none nonempty (Option.map_eq_none_iff.mp failed)⟩

theorem routed_nil (nothing : candidates selection.archival fleet = []) :
    Routed fleet selection [] where
  distinct := List.nodup_nil
  candidates _ member := by cases member
  served := by
    have none := candidates_eq_nil nothing
    have count : fleet.candidateCount selection.archival = 0 := by
      have length := candidates_length selection.archival fleet
      rw [nothing] at length
      exact length.symm
    cases selection.policy with
    | broadcast => exact ⟨.nil, fun i => by simp [none i]⟩
    | single index =>
        cases index with
        | none => simp [Serves, count]
        | some i => exact ⟨fun candidate => absurd candidate (none i), fun _ => rfl⟩
    | indices wanted => exact ⟨.nil, fun i => by simp [none i]⟩
    | count n => simp [Serves, count]

/-- However a selection is served, it gets what its policy asks for. -/
theorem Picked.routed (picked : Picked (candidates selection.archival fleet) source
    selection.policy chosen rest) : Routed fleet selection chosen := by
  obtain ⟨policy, archival⟩ := selection
  have ascending := candidates_ascending archival fleet
  have count := candidates_length archival fleet
  have present {i : Nat} (member : i ∈ candidates archival fleet) : fleet.Candidate archival i :=
    mem_candidates.mp member
  cases picked with
  | nothing empty => exact routed_nil empty
  | broadcast =>
      exact ⟨ascending.nodup, fun i => present, ascending, fun i => mem_candidates⟩
  | @pinned i member =>
      refine ⟨List.nodup_singleton i, ?_, fun _ => rfl, fun absent => absurd (present member) absent⟩
      intro j isIndex
      rw [List.mem_singleton.mp isIndex]
      exact present member
  | unpinned absent =>
      refine ⟨List.nodup_nil, nofun, fun candidate => ?_, fun _ => rfl⟩
      exact absurd (mem_candidates.mpr candidate) absent
  | @any i rest chosen =>
      have member := Random.choose?_mem chosen
      refine ⟨List.nodup_singleton i, ?_, ?_⟩
      · intro j isIndex
        rw [List.mem_singleton.mp isIndex]
        exact present member
      · have positive : 0 < fleet.candidateCount archival := by
          have positive := List.length_pos_of_mem member
          rwa [count] at positive
        exact (Nat.min_eq_left positive).symm
  | indices wanted =>
      have filtered : (candidates archival fleet).filter wanted.contains |>.Sublist
          (candidates archival fleet) := List.filter_sublist
      refine ⟨(ascending.sublist filtered).nodup, ?_, ascending.sublist filtered, ?_⟩
      · intro i member
        exact present (filtered.subset member)
      · intro i
        rw [List.mem_filter, mem_candidates, and_comm]
        simp [IndexSet.contains]
  | @count order rest n shuffled =>
      have permuted := Random.shuffle?_perm shuffled
      have distinct : order.Nodup := permuted.nodup_iff.mpr ascending.nodup
      refine ⟨distinct.sublist (List.take_sublist n order), ?_, ?_⟩
      · intro i member
        exact present (permuted.subset (List.mem_of_mem_take member))
      · show (order.take n).length = min n _
        rw [List.length_take, permuted.length_eq, count]
        rfl

/-- A selection routes to distinct candidates, as its policy says; it has a result unless it draws and a
draw never completes; and a snapshot routes in the same way as the fleet itself. -/
theorem select?_spec (fleet : Fleet) (selection : Selection) (source : σ) :
    (∀ chosen rest, select? fleet selection source = some (chosen, rest) →
      chosen.Nodup ∧
        (∀ i ∈ chosen, i < fleet.length ∧ fleet.Candidate selection.archival i) ∧
          Serves fleet selection.archival chosen selection.policy) ∧
    (select? fleet selection source = none →
      Draws selection.policy ∧ ∃ place faces, 0 < faces ∧
        faces ≤ fleet.candidateCount selection.archival ∧ Refuses faces (skip place source)) ∧
    select? fleet.snapshot selection source = select? fleet selection source := by
  refine ⟨?_, refuses_of_select?, select?_congr selection source (candidates_snapshot fleet)⟩
  intro chosen rest selected
  have routed := (picked_of_select? selected).routed
  refine ⟨routed.distinct, fun i member => ?_, routed.served⟩
  obtain ⟨w, found, eligible⟩ := routed.candidates i member
  exact ⟨(List.getElem?_eq_some_iff.mp found).1, w, found, eligible⟩

/-- Two of three workers with full history are asked for.  The first word is refused by the die with three
faces; the second one moves worker 4 to the front of the last two, and the third one to the very front. -/
theorem select?_spec_two_of_three :
    let whole : Worker := { alive := true, archival := true }
    let fleet : Fleet := [whole, { alive := true }, { archival := true }, whole, whole]
    let words : List UInt32 := [0xFFFFFFFF, 0x80000000, 5]
    select? fleet { policy := .count 2, archival := true } words = some ([4, 0], []) ∧
      [4, 0].Nodup ∧ fleet.Candidate true 4 ∧ fleet.Candidate true 0 ∧
        [4, 0].length = min 2 (fleet.candidateCount true) := by
  intro whole fleet words
  have three : Random.Die.roll? ⟨3⟩ words = some (1, [5]) := by
    rw [Random.roll?_of_refused (by decide), Random.roll?_of_accepts (by decide)]
    decide
  have two : Random.Die.roll? ⟨2⟩ ([5] : List UInt32) = some (0, []) := by
    rw [Random.roll?_of_accepts (by decide)]
    decide
  have shuffled : Random.shuffle? [0, 3, 4] words = some ([4, 0, 3], []) := by
    simp [Random.shuffle?, Random.exchanges?, three, two, Random.arrange, Random.swap]
  have selected : select? fleet { policy := .count 2, archival := true } words =
      some ([4, 0], []) := by
    show (Random.shuffle? [0, 3, 4] words).map _ = _
    rw [shuffled]
    rfl
  obtain ⟨distinct, candidates, count⟩ := (select?_spec fleet _ words).1 _ _ selected
  exact ⟨selected, distinct, (candidates 4 (by decide)).2, (candidates 0 (by decide)).2, count⟩

end Select

end Routing

end LiteserverFleet
