import LiteserverFleet.Random.Source
import Mathlib.Data.List.Basic

/-!
# Draws

A roll of a die takes words until one is accepted, so it has no outcome exactly if all words ahead are
refused (`roll?_eq_none_iff`); its outcome is the index of an accepted word.  A shuffle rolls a die
for each place but the first, and whatever it rolls, it permutes (`shuffle?_perm`).
-/

set_option autoImplicit false

namespace LiteserverFleet.Random

/-- The words of a list, and zeros behind them. -/
instance : WordSource (List UInt32) where
  next
    | [] => (0, [])
    | word :: rest => (word, rest)

section Words

variable {σ : Type} [WordSource σ]

/-- The source behind some words. -/
def skip : Nat → σ → σ
  | 0, source => source
  | count + 1, source => skip count (WordSource.next source).2

def wordAt (place : Nat) (source : σ) : UInt32 :=
  (WordSource.next (skip place source)).1

/-- All words from here on are refused by a die with so many faces. -/
def Refuses (faces : Nat) (source : σ) : Prop :=
  ∀ place, accepts faces (wordAt place source) = false

theorem skip_add (first second : Nat) (source : σ) :
    skip (first + second) source = skip second (skip first source) := by
  induction first generalizing source with
  | zero => rw [Nat.zero_add, skip]
  | succ first ih =>
      rw [Nat.succ_add]
      exact ih (WordSource.next source).2

/-! ## Rolls -/

variable {die : Die} {source rest : σ} {i : Nat}

theorem roll?_of_accepts (accepted : accepts die.faces (WordSource.next source).1 = true) :
    die.roll? source =
      some (indexOf die.faces (WordSource.next source).1, (WordSource.next source).2) := by
  rw [Die.roll?]
  exact if_pos accepted

theorem roll?_of_refused (refused : accepts die.faces (WordSource.next source).1 = false) :
    die.roll? source = die.roll? (WordSource.next source).2 := by
  rw [Die.roll?]
  exact if_neg (Bool.eq_false_iff.mp refused)

theorem roll?_eq_some (rolled : die.roll? source = some (i, rest)) :
    ∃ place, accepts die.faces (wordAt place source) = true ∧
      i = indexOf die.faces (wordAt place source) ∧ rest = skip (place + 1) source := by
  refine Die.roll?.partial_correctness die (fun source outcome => ∃ place,
    accepts die.faces (wordAt place source) = true ∧
      outcome.1 = indexOf die.faces (wordAt place source) ∧
        outcome.2 = skip (place + 1) source) ?_ source (i, rest) rolled
  intro roll onward source outcome rolled
  dsimp only at rolled
  split at rolled
  · next accepted =>
    cases Option.some.inj rolled
    exact ⟨0, accepted, rfl, rfl⟩
  · obtain ⟨place, accepted, index, behind⟩ := onward _ outcome rolled
    exact ⟨place + 1, accepted, index, behind⟩

/-- A roll does not complete exactly if no word ahead is accepted. -/
theorem roll?_eq_none_iff : die.roll? source = none ↔ Refuses die.faces source := by
  constructor
  · intro failed place
    induction place generalizing source with
    | zero =>
        by_contra accepted
        rw [roll?_of_accepts (by simpa [wordAt, skip] using accepted)] at failed
        cases failed
    | succ place ih =>
        cases refused : accepts die.faces (WordSource.next source).1 with
        | true =>
            rw [roll?_of_accepts refused] at failed
            cases failed
        | false =>
            rw [roll?_of_refused refused] at failed
            exact ih failed
  · intro refuses
    cases rolled : die.roll? source with
    | none => rfl
    | some outcome =>
        obtain ⟨i, rest⟩ := outcome
        obtain ⟨place, accepted, -⟩ := roll?_eq_some rolled
        rw [refuses place] at accepted
        cases accepted

theorem indexOf_lt {n : Nat} (positive : 0 < n) (word : UInt32) : indexOf n word < n := by
  have bounded : word.toNat < 0x100000000 := word.toNat_lt
  exact Nat.div_lt_of_lt_mul (Nat.mul_lt_mul_of_pos_right bounded positive)

theorem roll?_lt {faces : Nat} (positive : 0 < faces)
    (rolled : Die.roll? ⟨faces⟩ source = some (i, rest)) : i < faces := by
  obtain ⟨place, -, rfl, -⟩ := roll?_eq_some rolled
  exact indexOf_lt positive _

/-! ## Choices -/

variable {α : Type} {xs order : List α} {x : α}

theorem choose?_mem (chosen : choose? xs source = some (x, rest)) : x ∈ xs := by
  obtain ⟨⟨i, behind⟩, -, rest⟩ := Option.bind_eq_some_iff.mp chosen
  obtain ⟨y, found, same⟩ := Option.bind_eq_some_iff.mp rest
  cases Option.some.inj same
  exact List.mem_of_getElem? found

/-- A choice from a list with elements fails only as its roll does not complete. -/
theorem choose?_eq_none (nonempty : xs ≠ []) (failed : choose? xs source = none) :
    Refuses xs.length source := by
  have positive : 0 < xs.length := List.length_pos_of_ne_nil nonempty
  cases rolled : Die.roll? ⟨xs.length⟩ source with
  | none => exact roll?_eq_none_iff.mp rolled
  | some outcome =>
      obtain ⟨i, behind⟩ := outcome
      have present : i < xs.length := roll?_lt positive rolled
      simp [choose?, rolled, present] at failed

/-! ## Shuffles -/

theorem exchanges?_eq_none {last : Nat} (failed : exchanges? last source = none) :
    ∃ place faces, 0 < faces ∧ faces ≤ last + 1 ∧ Refuses faces (skip place source) := by
  induction last generalizing source with
  | zero => cases failed
  | succ last ih =>
      cases rolled : Die.roll? ⟨last + 2⟩ source with
      | none => exact ⟨0, last + 2, Nat.succ_pos _, Nat.le_refl _, roll?_eq_none_iff.mp rolled⟩
      | some outcome =>
          obtain ⟨j, behind⟩ := outcome
          obtain ⟨passed, -, -, isBehind⟩ := roll?_eq_some rolled
          have later : exchanges? last behind = none := by
            cases later : exchanges? last behind with
            | none => rfl
            | some others => simp [exchanges?, rolled, later] at failed
          obtain ⟨place, faces, positive, bounded, refuses⟩ := ih later
          refine ⟨passed + 1 + place, faces, positive, Nat.le_succ_of_le bounded, ?_⟩
          rw [skip_add, ← isBehind]
          exact refuses

theorem swap_perm (xs : List α) (i j : Nat) : (swap xs i j).Perm xs := by
  unfold swap
  split
  · next x y foundX foundY =>
    obtain ⟨presentX, rfl⟩ := List.getElem?_eq_some_iff.mp foundX
    obtain ⟨presentY, rfl⟩ := List.getElem?_eq_some_iff.mp foundY
    exact List.set_set_perm presentX presentY
  · exact .refl xs

theorem arrange_perm (xs : List α) (last : Nat) (drawn : List Nat) :
    (arrange xs last drawn).Perm xs := by
  induction drawn generalizing xs last with
  | nil => exact .refl xs
  | cons j js ih => exact (ih (swap xs last j) (last - 1)).trans (swap_perm xs last j)

theorem shuffle?_perm (shuffled : shuffle? xs source = some (order, rest)) : order.Perm xs := by
  obtain ⟨⟨drawn, behind⟩, -, same⟩ := Option.bind_eq_some_iff.mp shuffled
  cases Option.some.inj same
  exact arrange_perm xs _ drawn

theorem shuffle?_eq_none (nonempty : xs ≠ []) (failed : shuffle? xs source = none) :
    ∃ place faces, 0 < faces ∧ faces ≤ xs.length ∧ Refuses faces (skip place source) := by
  have positive : 0 < xs.length := List.length_pos_of_ne_nil nonempty
  have noExchanges : exchanges? (xs.length - 1) source = none := by
    cases drawn : exchanges? (xs.length - 1) source with
    | none => rfl
    | some outcome => simp [shuffle?, drawn] at failed
  obtain ⟨place, faces, isFace, bounded, refuses⟩ := exchanges?_eq_none noExchanges
  exact ⟨place, faces, isFace, by omega, refuses⟩

end Words

end LiteserverFleet.Random
