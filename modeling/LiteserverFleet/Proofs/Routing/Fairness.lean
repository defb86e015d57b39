import LiteserverFleet.Proofs.Random.Orders
import LiteserverFleet.Proofs.Routing

/-!
# Fair selections

A policy that leaves a choice prefers no candidate.  A single worker is given by one accepted word, and every
candidate has equally many words (`single_uniform`).  Several workers are given by the places drawn for a
shuffle, and every ordered choice of candidates has equally many sequences of places (`count_fair`).
-/

set_option autoImplicit false

namespace LiteserverFleet

/-- All candidates, each once, in some order. -/
structure Fleet.CandidateOrder (fleet : Fleet) (archival : Bool) (order : List Nat) : Prop where
  distinct : order.Nodup
  complete : ∀ i, i ∈ order ↔ fleet.Candidate archival i

namespace Routing

open scoped Nat
open LiteserverFleet.Random (accepts indexOf spareBits share arrange exchanges? Drawable)

variable {fleet : Fleet} {archival : Bool}

theorem length_candidates (archival : Bool) (fleet : Fleet) :
    (candidates archival fleet).length = fleet.candidateCount archival :=
  candidates_length archival fleet

theorem candidates_ne_nil (positive : 1 ≤ fleet.candidateCount archival) :
    candidates archival fleet ≠ [] := by
  rw [← length_candidates] at positive
  exact List.ne_nil_of_length_pos positive

theorem candidateOrder_iff_perm {order : List Nat} :
    fleet.CandidateOrder archival order ↔ order.Perm (candidates archival fleet) := by
  have distinct := (candidates_ascending archival fleet).nodup
  constructor
  · intro ordered
    apply (List.perm_ext_iff_of_nodup ordered.distinct distinct).mpr
    intro i
    rw [ordered.complete, mem_candidates]
  · intro perm
    refine ⟨perm.nodup_iff.mpr distinct, ?_⟩
    intro i
    rw [perm.mem_iff, mem_candidates]

/-! ## One candidate -/

section Single

variable {σ : Type} [WordSource σ] {source : σ}

theorem select?_any (nonempty : candidates archival fleet ≠ []) (source : σ) :
    select? fleet { policy := .single none, archival } source =
      (Random.choose? (candidates archival fleet) source).map fun (i, rest) => ([i], rest) := by
  unfold select?
  dsimp only
  rw [if_neg]
  rwa [List.isEmpty_iff]

/-- An accepted word gives the candidate at its index. -/
theorem select?_any_of_accepts (nonempty : candidates archival fleet ≠ [])
    (accepted : accepts (fleet.candidateCount archival) (WordSource.next source).1 = true) :
    select? fleet { policy := .single none, archival } source =
      (candidates archival fleet)[indexOf (fleet.candidateCount archival) (WordSource.next source).1]?.map
        fun i => ([i], (WordSource.next source).2) := by
  have rolled : Random.Die.roll? ⟨fleet.candidateCount archival⟩ source =
      some (indexOf (fleet.candidateCount archival) (WordSource.next source).1,
        (WordSource.next source).2) := Random.roll?_of_accepts accepted
  rw [select?_any nonempty, Random.choose?, length_candidates, rolled]
  dsimp only [Option.bind_eq_bind, Option.bind_some]
  cases (candidates archival fleet)[indexOf (fleet.candidateCount archival) (WordSource.next source).1]? with
  | none => rfl
  | some i => rfl

theorem select?_any_of_refused (nonempty : candidates archival fleet ≠ [])
    (refused : accepts (fleet.candidateCount archival) (WordSource.next source).1 = false) :
    select? fleet { policy := .single none, archival } source =
      select? fleet { policy := .single none, archival } (WordSource.next source).2 := by
  have rolled : Random.Die.roll? ⟨fleet.candidateCount archival⟩ source =
      Random.Die.roll? ⟨fleet.candidateCount archival⟩ (WordSource.next source).2 :=
    Random.roll?_of_refused refused
  rw [select?_any nonempty, select?_any nonempty, Random.choose?, Random.choose?, length_candidates, rolled]

/-- The accepted words that give a candidate are those of its index. -/
theorem words_of_candidate {i : Nat} (candidate : fleet.Candidate archival i) (later : List UInt32) :
    ∃ k < fleet.candidateCount archival,
      {word | accepts (fleet.candidateCount archival) word = true ∧
        select? fleet { policy := .single none, archival } (word :: later) = some ([i], later)} =
      {word | accepts (fleet.candidateCount archival) word = true ∧
        indexOf (fleet.candidateCount archival) word = k} := by
  have distinct := (candidates_ascending archival fleet).nodup
  have member := mem_candidates.mpr candidate
  obtain ⟨k, found⟩ := List.mem_iff_getElem?.mp member
  have inRange := (List.getElem?_eq_some_iff.mp found).1
  refine ⟨k, by rwa [← length_candidates], ?_⟩
  ext word
  apply and_congr_right
  intro accepted
  have selected : select? fleet { policy := .single none, archival } (word :: later) =
      (candidates archival fleet)[indexOf (fleet.candidateCount archival) word]?.map fun i => ([i], later) :=
    select?_any_of_accepts (List.ne_nil_of_mem member) accepted
  rw [selected]
  constructor
  · intro gives
    obtain ⟨j, foundToo, same⟩ := Option.map_eq_some_iff.mp gives
    cases same
    exact ((List.getElem?_inj inRange distinct).mp (found.trans foundToo.symm)).symm
  · intro index
    have foundToo : (candidates archival fleet)[indexOf (fleet.candidateCount archival) word]? =
        some i := by rw [index, found]
    exact congrArg (Option.map fun i => ([i], later)) foundToo

end Single

/-- Any one worker: every candidate is given by the same number of accepted words, a power of two; they are
at least half of all words.  A refused word is passed over. -/
theorem single_uniform (fleet : Fleet) (archival : Bool)
    (positive : 1 ≤ fleet.candidateCount archival) (few : fleet.candidateCount archival < 2 ^ 32) :
    let m := fleet.candidateCount archival
    let selection : Selection := { policy := .single none, archival }
    {word | accepts m word = true}.ncard = m * 2 ^ spareBits m ∧
      (2 ^ 31 ≤ m * 2 ^ spareBits m ∧ m * 2 ^ spareBits m < 2 ^ 32) ∧
      (∀ word, accepts m word = true → indexOf m word < m) ∧
      (∀ i (later : List UInt32), fleet.Candidate archival i →
        {word | accepts m word = true ∧ select? fleet selection (word :: later) = some ([i], later)}.ncard =
          2 ^ spareBits m) ∧
      ∀ {σ : Type} [WordSource σ] (source : σ),
        (accepts m (WordSource.next source).1 = true → ∃ i, fleet.Candidate archival i ∧
          (candidates archival fleet)[indexOf m (WordSource.next source).1]? = some i ∧
            select? fleet selection source = some ([i], (WordSource.next source).2)) ∧
        (accepts m (WordSource.next source).1 = false →
          select? fleet selection source = select? fleet selection (WordSource.next source).2) := by
  intro m selection
  have nonempty := candidates_ne_nil positive
  refine ⟨Random.ncard_accepts positive few, Random.highest_bit positive few,
    fun word _ => Random.indexOf_lt positive word, ?_, ?_⟩
  · intro i later candidate
    obtain ⟨k, below, words⟩ := words_of_candidate candidate later
    exact (congrArg Set.ncard words).trans (Random.ncard_indexOf below few)
  · intro σ _ source
    refine ⟨?_, select?_any_of_refused nonempty⟩
    intro accepted
    have below : indexOf m (WordSource.next source).1 < (candidates archival fleet).length := by
      rw [length_candidates]
      exact Random.indexOf_lt positive _
    have found := List.getElem?_eq_getElem below
    refine ⟨_, mem_candidates.mp (List.getElem_mem below), found, ?_⟩
    rw [select?_any_of_accepts nonempty accepted, found]
    rfl

/-- Three candidates among four workers: a quarter of all words is refused, and each candidate has a quarter. -/
theorem single_uniform_three_of_four :
    let fleet : Fleet := [{ alive := true }, {}, { alive := true }, { alive := true }]
    fleet.candidateCount false = 3 ∧ {word | accepts 3 word = true}.ncard = 3 * 2 ^ 30 ∧
      {word | accepts 3 word = true ∧ select? fleet { policy := .single none } [word] =
        some ([2], ([] : List UInt32))}.ncard = 2 ^ 30 := by
  intro fleet
  have bits : spareBits 3 = 30 := by decide
  have candidate : fleet.Candidate false 2 := mem_candidates.mp (by decide)
  obtain ⟨total, -, -, each, -⟩ := single_uniform fleet false (by decide) (by decide)
  rw [← bits]
  exact ⟨rfl, total, each 2 [] candidate⟩

/-! ## Several candidates -/

section Count

variable {σ : Type} [WordSource σ]

theorem select?_count (nonempty : candidates archival fleet ≠ []) (n : Nat) (source : σ) :
    select? fleet { policy := .count n, archival } source =
      (exchanges? (fleet.candidateCount archival - 1) source).map fun (drawn, rest) =>
        ((arrange (candidates archival fleet) (fleet.candidateCount archival - 1) drawn).take n, rest) := by
  unfold select?
  dsimp only
  rw [if_neg (by rwa [List.isEmpty_iff]), Random.shuffle?, length_candidates]
  cases exchanges? (fleet.candidateCount archival - 1) source with
  | none => rfl
  | some outcome => rfl

end Count

/-- Several workers: the sequences of places that a shuffle may draw and the orders of the candidates correspond
one to one, so every ordered choice of candidates is made by equally many sequences. -/
theorem count_fair (fleet : Fleet) (archival : Bool) (n : Nat)
    (positive : 1 ≤ fleet.candidateCount archival) (few : fleet.candidateCount archival < 2 ^ 32) :
    let m := fleet.candidateCount archival
    let order := arrange (candidates archival fleet) (m - 1)
    Set.BijOn order {drawn | Drawable (m - 1) drawn} {order | fleet.CandidateOrder archival order} ∧
      {order | fleet.CandidateOrder archival order}.ncard = m ! ∧
      (∀ chosen, chosen.Nodup → (∀ i ∈ chosen, fleet.Candidate archival i) →
        chosen.length = min n m →
          {drawn | Drawable (m - 1) drawn ∧ (order drawn).take n = chosen}.ncard = (m - min n m) !) ∧
      (∀ {σ : Type} [WordSource σ] (source : σ),
        select? fleet { policy := .count n, archival } source =
          (exchanges? (m - 1) source).map fun (drawn, rest) => ((order drawn).take n, rest)) ∧
      (∀ {σ : Type} [WordSource σ] (source : σ) drawn rest,
        exchanges? (m - 1) source = some (drawn, rest) → Drawable (m - 1) drawn) ∧
      ∀ drawn, Drawable (m - 1) drawn →
        ∃ words : List UInt32, exchanges? (m - 1) words = some (drawn, []) := by
  intro m order
  have nonempty := candidates_ne_nil positive
  have distinct := (candidates_ascending archival fleet).nodup
  have length : (candidates archival fleet).length = m := length_candidates archival fleet
  have whole : (candidates archival fleet).length = m - 1 + 1 := by
    rw [length]
    exact (Nat.sub_add_cancel positive).symm
  have orders : {order | fleet.CandidateOrder archival order} =
      {order | order.Perm (candidates archival fleet)} := by
    ext order
    exact candidateOrder_iff_perm
  have arranged := Random.arrange_bijOn distinct whole
  rw [orders]
  refine ⟨arranged, ?_, ?_, fun source => select?_count nonempty n source,
    fun source drawn rest => Random.drawable_of_exchanges?, fun drawn => ?_⟩
  · rw [Random.ncard_orders distinct, length]
  · intro chosen distinctChosen chosenFrom chosenLength
    have fromCandidates (i : Nat) (isChosen : i ∈ chosen) : i ∈ candidates archival fleet :=
      mem_candidates.mpr (chosenFrom i isChosen)
    have chosenLength : chosen.length = min n (candidates archival fleet).length := by
      rw [length, chosenLength]
    have count := Random.ncard_drawn_behind distinct whole distinctChosen fromCandidates chosenLength
    rwa [chosenLength, length] at count
  · exact Random.exists_exchanges? (by omega)

/-- Two of four candidates among five workers: each ordered pair is chosen by two of the 24 sequences. -/
theorem count_fair_two_of_four :
    let up : Worker := { alive := true }
    let fleet : Fleet := [up, {}, up, up, up]
    fleet.candidateCount false = 4 ∧ {order | fleet.CandidateOrder false order}.ncard = 24 ∧
      {drawn | Drawable 3 drawn ∧ (arrange [0, 2, 3, 4] 3 drawn).take 2 = [3, 0]}.ncard = 2 := by
  intro up fleet
  obtain ⟨-, orders, each, -⟩ := count_fair fleet false 2 (by decide) (by decide)
  have candidates : ∀ i ∈ [3, 0], i ∈ candidates false fleet := by decide
  exact ⟨rfl, orders, each [3, 0] (by decide) (fun i chosen => mem_candidates.mp (candidates i chosen)) rfl⟩

end Routing

end LiteserverFleet
