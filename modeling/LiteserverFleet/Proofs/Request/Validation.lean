import LiteserverFleet.Request.Parameters
import LiteserverFleet.Simulation.Session

/-!
# What parameters are validated to

Each mode admits some combinations of the optional fields (`Admitted`) and refuses the others, each with its own
fault (`Refused`).  Admitted parameters are validated to one selection, and every selection comes from parameters:
validation forgets no more than the order and the repetition of listed indices (`validate_classifies`).
-/

set_option autoImplicit false

namespace LiteserverFleet

namespace IndexSet

theorem eq_of_members {s t : IndexSet} (same : ∀ n, n ∈ s.toList ↔ n ∈ t.toList) : s = t := by
  have perm : s.toList.Perm t.toList :=
    (List.perm_ext_iff_of_nodup (s.ascending.imp Nat.ne_of_lt) (t.ascending.imp Nat.ne_of_lt)).mpr same
  have listed : s.toList = t.toList := by
    refine List.Perm.eq_of_pairwise ?_ s.ascending t.ascending perm
    intro first second _ _ less greater
    exact absurd greater (Nat.lt_asymm less)
  cases s
  cases t
  cases listed
  rfl

theorem ofList_eq_iff {ns ms : List Nat} : ofList ns = ofList ms ↔ ∀ n, n ∈ ns ↔ n ∈ ms := by
  constructor
  · intro same n
    rw [← mem_ofList, same, mem_ofList]
  · intro same
    apply eq_of_members
    intro n
    rw [mem_ofList, mem_ofList]
    exact same n

theorem ofList_toList (s : IndexSet) : ofList s.toList = s :=
  eq_of_members fun _ => mem_ofList

end IndexSet

def Policy.mode : Policy → RequestMode
  | .broadcast => .broadcast
  | .single _ => .single
  | .indices _ => .multiple
  | .count _ => .multiple

/-- The numbers that a policy names: indices, or how many workers. -/
def Policy.numbers : Policy → List Nat
  | .broadcast => []
  | .single index => index.toList
  | .indices wanted => wanted.toList
  | .count n => [n]

namespace RequestParameters

/-- The indices that are listed; none if no list is given. -/
def listed (p : RequestParameters) : List Nat :=
  p.indexes.getD []

def numbers (p : RequestParameters) : List Nat :=
  p.listed ++ p.count.toList

/-- The first index of the list, to which a single request is pinned. -/
def pinned? (p : RequestParameters) : Option Nat :=
  p.listed.head?

/-- The combinations that the modes take. -/
inductive Admitted (p : RequestParameters) : Prop where
  | broadcast (mode : p.mode = .broadcast) (unlisted : p.indexes = none) (uncounted : p.count = none)
  | unpinned (mode : p.mode = .single) (unlisted : p.indexes = none) (uncounted : p.count = none)
  | pinned {index : Nat} (mode : p.mode = .single) (listed : p.indexes = some [index])
      (uncounted : p.count = none)
  | indices {ns : List Nat} (mode : p.mode = .multiple) (listed : p.indexes = some ns)
      (uncounted : p.count = none)
  | count {n : Nat} (mode : p.mode = .multiple) (unlisted : p.indexes = none) (counted : p.count = some n)

/-- The combinations that the modes refuse, and what is found wrong with them. -/
inductive Refused (p : RequestParameters) : RequestFault → Prop where
  | broadcast (mode : p.mode = .broadcast) (route : p.indexes ≠ none ∨ p.count ≠ none) :
      Refused p .broadcastWithRoute
  | singleCount (mode : p.mode = .single) (counted : p.count ≠ none) : Refused p .singleWithCount
  | singleList {ns : List Nat} (mode : p.mode = .single) (uncounted : p.count = none)
      (listed : p.indexes = some ns) (notOne : ns.length ≠ 1) : Refused p (.singleIndexCount ns.length)
  | both (mode : p.mode = .multiple) (listed : p.indexes ≠ none) (counted : p.count ≠ none) :
      Refused p .multipleWithBoth
  | neither (mode : p.mode = .multiple) (unlisted : p.indexes = none) (uncounted : p.count = none) :
      Refused p .multipleWithNeither

/-- The policy that admitted parameters ask for. -/
def policy (p : RequestParameters) : Policy :=
  match p.mode with
  | .broadcast => .broadcast
  | .single => .single p.pinned?
  | .multiple => p.count.elim (.indices (.ofList p.listed)) .count

/-- Two parameters that agree on all that a selection depends on. -/
structure Agree (p q : RequestParameters) : Prop where
  mode : p.mode = q.mode
  archival : p.archival = q.archival
  count : p.count = q.count
  pinned : p.mode = .single → p.pinned? = q.pinned?
  listed : p.mode = .multiple → ∀ n, n ∈ p.listed ↔ n ∈ q.listed

/-- Parameters for a selection; a set of indices is listed in ascending order. -/
def ofSelection (selection : Selection) : RequestParameters :=
  match selection.policy with
  | .broadcast => { everyWorker with archival := selection.archival }
  | .single none => { anyWorker with archival := selection.archival }
  | .single (some index) => { workerAt index with archival := selection.archival }
  | .indices wanted => { workersAt wanted.toList with archival := selection.archival }
  | .count n => { someWorkers n with archival := selection.archival }

/-! ## The two outcomes -/

section Outcomes

variable {p q : RequestParameters}

theorem admitted_or_refused (p : RequestParameters) : p.Admitted ∨ ∃ fault, p.Refused fault := by
  cases mode : p.mode with
  | broadcast =>
      by_cases plain : p.indexes = none ∧ p.count = none
      · exact .inl (.broadcast mode plain.1 plain.2)
      · exact .inr ⟨_, .broadcast mode (Decidable.not_and_iff_or_not.mp plain)⟩
  | single =>
      cases counted : p.count with
      | some n => exact .inr ⟨_, .singleCount mode (by simp [counted])⟩
      | none =>
          cases listed : p.indexes with
          | none => exact .inl (.unpinned mode listed counted)
          | some ns =>
              by_cases one : ns.length = 1
              · obtain ⟨index, rfl⟩ := List.length_eq_one_iff.mp one
                exact .inl (.pinned mode listed counted)
              · exact .inr ⟨_, .singleList mode counted listed one⟩
  | multiple =>
      cases listed : p.indexes with
      | none =>
          cases counted : p.count with
          | none => exact .inr ⟨_, .neither mode listed counted⟩
          | some n => exact .inl (.count mode listed counted)
      | some ns =>
          cases counted : p.count with
          | none => exact .inl (.indices mode listed counted)
          | some n => exact .inr ⟨_, .both mode (by simp [listed]) (by simp [counted])⟩

theorem Admitted.validate (admitted : p.Admitted) :
    p.validate = .ok { policy := p.policy, archival := p.archival } := by
  cases admitted with
  | broadcast mode unlisted uncounted => simp [RequestParameters.validate, policy, mode, unlisted, uncounted]
  | unpinned mode unlisted uncounted =>
      simp [RequestParameters.validate, policy, pinned?, listed, mode, unlisted, uncounted]
  | pinned mode isListed uncounted =>
      simp [RequestParameters.validate, policy, pinned?, listed, mode, isListed, uncounted]
  | indices mode isListed uncounted =>
      simp [RequestParameters.validate, policy, listed, mode, isListed, uncounted]
  | count mode unlisted counted => simp [RequestParameters.validate, policy, mode, unlisted, counted]

theorem Refused.validate {fault : RequestFault} (refused : p.Refused fault) :
    p.validate = .error (.invalidRequest fault) := by
  cases refused with
  | broadcast mode route =>
      have given : (p.indexes.isSome || p.count.isSome) = true := by
        simpa [Option.isSome_iff_ne_none] using route
      simp [RequestParameters.validate, mode, given]
  | singleCount mode counted =>
      have given : p.count.isSome = true := Option.isSome_iff_ne_none.mpr counted
      simp [RequestParameters.validate, mode, given]
  | @singleList ns mode uncounted isListed notOne =>
      rcases ns with _ | ⟨index, _ | ⟨second, others⟩⟩
      · simp [RequestParameters.validate, mode, uncounted, isListed]
      · exact absurd rfl notOne
      · simp [RequestParameters.validate, mode, uncounted, isListed]
  | both mode isListed counted =>
      obtain ⟨ns, isListed⟩ := Option.ne_none_iff_exists'.mp isListed
      obtain ⟨n, counted⟩ := Option.ne_none_iff_exists'.mp counted
      simp [RequestParameters.validate, mode, isListed, counted]
  | neither mode unlisted uncounted => simp [RequestParameters.validate, mode, unlisted, uncounted]

theorem validate_eq_error_iff {e : FleetError} :
    p.validate = .error e ↔ ∃ fault, p.Refused fault ∧ e = .invalidRequest fault := by
  constructor
  · intro failed
    rcases admitted_or_refused p with admitted | ⟨fault, refused⟩
    · cases admitted.validate.symm.trans failed
    · cases refused.validate.symm.trans failed
      exact ⟨fault, refused, rfl⟩
  · rintro ⟨fault, refused, rfl⟩
    exact refused.validate

theorem validate_eq_ok_iff {selection : Selection} :
    p.validate = .ok selection ↔
      p.Admitted ∧ selection = { policy := p.policy, archival := p.archival } := by
  constructor
  · intro validated
    rcases admitted_or_refused p with admitted | ⟨fault, refused⟩
    · cases admitted.validate.symm.trans validated
      exact ⟨admitted, rfl⟩
    · cases refused.validate.symm.trans validated
  · rintro ⟨admitted, rfl⟩
    exact admitted.validate

/-! ## What a selection depends on -/

theorem policy_mode (p : RequestParameters) : p.policy.mode = p.mode := by
  cases mode : p.mode with
  | broadcast => simp [policy, mode, Policy.mode]
  | single => simp [policy, mode, Policy.mode]
  | multiple => cases counted : p.count <;> simp [policy, mode, counted, Policy.mode]

theorem Admitted.uncounted (admitted : p.Admitted) (notMultiple : p.mode ≠ .multiple) : p.count = none := by
  cases admitted with
  | broadcast _ _ uncounted | unpinned _ _ uncounted | pinned _ _ uncounted => exact uncounted
  | indices mode _ _ | count mode _ _ => exact absurd mode notMultiple

theorem Admitted.unlisted {n : Nat} (admitted : p.Admitted) (counted : p.count = some n) : p.listed = [] := by
  cases admitted with
  | broadcast _ _ uncounted | unpinned _ _ uncounted | pinned _ _ uncounted | indices _ _ uncounted =>
      cases uncounted.symm.trans counted
  | count _ unlisted _ => simp [listed, unlisted]

theorem Agree.policy (agree : p.Agree q) : p.policy = q.policy := by
  have modeToo := agree.mode.symm
  have countToo := agree.count.symm
  cases mode : p.mode with
  | broadcast =>
      rw [mode] at modeToo
      simp only [RequestParameters.policy, mode, modeToo]
  | single =>
      rw [mode] at modeToo
      simp only [RequestParameters.policy, mode, modeToo, agree.pinned mode]
  | multiple =>
      rw [mode] at modeToo
      have sameSet := IndexSet.ofList_eq_iff.mpr (agree.listed mode)
      simp only [RequestParameters.policy, mode, modeToo, countToo, sameSet]

/-- A count and a set of indices are never mistaken for each other. -/
theorem elim_policy_inj {count other : Option Nat} {s t : IndexSet}
    (same : count.elim (Policy.indices s) .count = other.elim (.indices t) .count) :
    count = other ∧ (count = none → s = t) := by
  cases count with
  | none =>
      cases other with
      | none => exact ⟨rfl, fun _ => Policy.indices.inj same⟩
      | some m => cases same
  | some n =>
      cases other with
      | none => cases same
      | some m =>
          cases same
          exact ⟨rfl, nofun⟩

theorem Admitted.agree (admitted : p.Admitted) (admittedToo : q.Admitted) (same : p.policy = q.policy)
    (archival : p.archival = q.archival) : p.Agree q := by
  have mode : p.mode = q.mode := by
    rw [← policy_mode p, same, policy_mode q]
  by_cases multiple : p.mode = .multiple
  · have multipleToo := mode.symm.trans multiple
    simp only [RequestParameters.policy, multiple, multipleToo] at same
    obtain ⟨count, sameSet⟩ := elim_policy_inj same
    refine ⟨mode, archival, count, fun single => ?_, fun _ => ?_⟩
    · cases multiple.symm.trans single
    · cases counted : p.count with
      | none => exact IndexSet.ofList_eq_iff.mp (sameSet counted)
      | some n =>
          rw [admitted.unlisted counted, admittedToo.unlisted (count.symm.trans counted)]
          exact fun _ => Iff.rfl
  · have uncounted := admitted.uncounted multiple
    have uncountedToo := admittedToo.uncounted (mode ▸ multiple)
    refine ⟨mode, archival, uncounted.trans uncountedToo.symm, ?_, fun isMultiple => absurd isMultiple multiple⟩
    intro single
    simpa [policy, single, mode.symm.trans single] using same

end Outcomes

theorem validate_ofSelection (selection : Selection) : (ofSelection selection).validate = .ok selection := by
  obtain ⟨policy, archival⟩ := selection
  rcases policy with _ | (_ | index) | wanted | n
  · rfl
  · rfl
  · rfl
  · show Except.ok ({ policy := .indices (.ofList wanted.toList), archival } : Selection) = _
    rw [IndexSet.ofList_toList]
  · rfl

theorem numbers_ofSelection (selection : Selection) :
    (ofSelection selection).numbers = selection.policy.numbers := by
  obtain ⟨policy, archival⟩ := selection
  rcases policy with _ | (_ | index) | wanted | n
  · rfl
  · rfl
  · rfl
  · exact List.append_nil wanted.toList
  · rfl

theorem validate_reordered {p : RequestParameters} (multiple : p.mode = .multiple) {ns ms : List Nat}
    (same : ∀ n, n ∈ ns ↔ n ∈ ms) :
    validate { p with indexes := some ns } = validate { p with indexes := some ms } := by
  obtain ⟨mode, archival, indexes, count⟩ := p
  cases multiple
  cases count with
  | none =>
      show Except.ok ({ policy := .indices (.ofList ns), archival } : Selection) = _
      rw [IndexSet.ofList_eq_iff.mpr same]
      rfl
  | some n => rfl

/-- Every selection is what some parameters with the same numbers are validated to.  Parameters that are validated have
one and the same selection exactly if they agree on the mode, on the archival flag, on the count and on the
pinned index or the set of listed indices.  Parameters that are not validated are those with a combination that
their mode refuses, and the fault is named.  So the order and the repetition of the indices of a multiple request
make no difference to where it is routed. -/
theorem validate_classifies :
    (∀ selection : Selection, ∃ p : RequestParameters, p.validate = .ok selection ∧
      p.numbers = selection.policy.numbers) ∧
    (∀ (p q : RequestParameters) (s t : Selection), p.validate = .ok s → q.validate = .ok t →
      (p.validate = q.validate ↔ p.Agree q)) ∧
    (∀ (p : RequestParameters) (e : FleetError),
      p.validate = .error e ↔ ∃ fault, p.Refused fault ∧ e = .invalidRequest fault) ∧
    ∀ (p : RequestParameters) (ns ms : List Nat), p.mode = .multiple → (∀ n, n ∈ ns ↔ n ∈ ms) →
      let given : RequestParameters := { p with indexes := some ns }
      let reordered : RequestParameters := { p with indexes := some ms }
      given.validate = reordered.validate ∧
        ∀ fleet : Simulation, fleet.select given = fleet.select reordered ∧
          fleet.selectOrUnavailable given = fleet.selectOrUnavailable reordered ∧
          ∀ (α : Type) (request : Connection → Behaviour α × Connection),
            fleet.sendRequest request given = fleet.sendRequest request reordered := by
  refine ⟨?image, ?kernel, ?refusal, ?order⟩
  case image =>
    intro selection
    exact ⟨ofSelection selection, validate_ofSelection selection, numbers_ofSelection selection⟩
  case kernel =>
    intro p q s t validated validatedToo
    obtain ⟨admitted, -⟩ := validate_eq_ok_iff.mp validated
    obtain ⟨admittedToo, -⟩ := validate_eq_ok_iff.mp validatedToo
    rw [admitted.validate, admittedToo.validate]
    constructor
    · intro same
      obtain ⟨policy, archival⟩ := Selection.mk.inj (Except.ok.inj same)
      exact admitted.agree admittedToo policy archival
    · intro agree
      rw [agree.policy, agree.archival]
  case refusal =>
    intro p e
    exact validate_eq_error_iff
  case order =>
    intro p ns ms multiple same given reordered
    have validated : given.validate = reordered.validate := validate_reordered multiple same
    refine ⟨validated, fun fleet => ?_⟩
    have selected : fleet.select given = fleet.select reordered := by
      simp only [Simulation.select, validated]
    have available : fleet.selectOrUnavailable given = fleet.selectOrUnavailable reordered := by
      simp only [Simulation.selectOrUnavailable, selected]
    refine ⟨selected, available, ?_⟩
    intro α request
    simp only [Simulation.sendRequest, available]

/-- A list with a repeated index has the selection of its set, which is not that of a count; two indices are refused
where one is due. -/
theorem validate_classifies_repeated_index :
    let given := workersAt [4, 0, 4]
    let reordered := workersAt [0, 4]
    let several : RequestParameters := { anyWorker with indexes := some [0, 1] }
    (∃ s, given.validate = .ok s ∧ s.policy.numbers = [0, 4]) ∧ given.validate = reordered.validate ∧
      given.Agree reordered ∧ ¬ given.Agree (someWorkers 4) ∧
        several.validate = .error (.invalidRequest (.singleIndexCount 2)) := by
  intro given reordered several
  obtain ⟨-, kernel, refusal, order⟩ := validate_classifies
  have sameSet : ∀ n, n ∈ [4, 0, 4] ↔ n ∈ [0, 4] := by
    intro n
    simp only [List.mem_cons, List.not_mem_nil, or_false]
    omega
  have same : given.validate = reordered.validate := (order given [4, 0, 4] [0, 4] rfl sameSet).1
  have agree : given.Agree reordered := (kernel given reordered _ _ rfl rfl).mp same
  have differ : ¬ given.Agree (someWorkers 4) := by
    intro agree
    cases (kernel given (someWorkers 4) _ _ rfl rfl).mpr agree
  have two : [0, 1].length ≠ 1 := by decide
  have refused : several.Refused (.singleIndexCount 2) := .singleList rfl rfl rfl two
  exact ⟨⟨_, rfl, by decide⟩, same, agree, differ, (refusal several _).mpr ⟨_, refused, rfl⟩⟩

end RequestParameters

end LiteserverFleet
