import LiteserverFleet.Proofs.Random.Draws
import Mathlib.Algebra.Order.Floor.Div
import Mathlib.Data.Set.Card

/-!
# Equally many words for every index

The words that a die accepts and that have an index are consecutive: they begin with the first word whose
product with the number of faces reaches the index, and there are as many of them for every index
(`accepted_indexOf_iff`).  So every index has the same number of accepted words (`ncard_indexOf`), and
with the number of faces shifted into the highest bit, at least half of all words are accepted.
-/

set_option autoImplicit false

namespace LiteserverFleet.Random

/-- The number of accepted words of every index. -/
def share (n : Nat) : Nat :=
  2 ^ spareBits n

/-- The least word whose index is not below `i`. -/
def firstWord (n i : Nat) : Nat :=
  i * 0x100000000 ⌈/⌉ n

/-- The word at a place among those of an index. -/
def wordOf (n i place : Nat) : UInt32 :=
  UInt32.ofNat (firstWord n i + place)

variable {n i : Nat}

theorem share_pos (n : Nat) : 0 < share n :=
  Nat.two_pow_pos (spareBits n)

theorem acceptedUpTo_eq (n : Nat) : acceptedUpTo n = n * share n - 1 := by
  rw [acceptedUpTo, Nat.shiftLeft_eq]
  rfl

/-- The shift moves the highest bit of the number of faces to the highest place of a word. -/
theorem highest_bit (positive : 0 < n) (few : n < 0x100000000) :
    0x80000000 ≤ n * share n ∧ n * share n < 0x100000000 := by
  have below : n.log2 < 32 := (Nat.log2_lt (Nat.ne_of_gt positive)).mpr few
  have bits : n.log2 + spareBits n = 31 := by
    unfold spareBits
    omega
  constructor
  · calc 0x80000000 = 2 ^ n.log2 * share n := by rw [share, ← Nat.pow_add, bits]
      _ ≤ n * share n := Nat.mul_le_mul_right _ (Nat.log2_self_le (Nat.ne_of_gt positive))
  · calc n * share n < 2 ^ (n.log2 + 1) * share n :=
          Nat.mul_lt_mul_of_pos_right Nat.lt_log2_self (share_pos n)
      _ = 0x100000000 := by rw [share, ← Nat.pow_add, Nat.add_right_comm, bits]

/-- A word has an index and is accepted if its product lies in the accepted part of the index's round. -/
theorem accepted_product_iff (positive : 0 < n) (few : n < 0x100000000) (word : UInt32) :
    (accepts n word = true ∧ indexOf n word = i) ↔
      i * 0x100000000 ≤ n * word.toNat ∧ n * word.toNat < i * 0x100000000 + n * share n := by
  obtain ⟨-, small⟩ := highest_bit positive few
  have someAccepted : 0 < n * share n := Nat.mul_pos positive (share_pos n)
  unfold accepts indexOf
  rw [acceptedUpTo_eq, decide_eq_true_eq, Nat.mul_comm word.toNat n]
  omega

theorem firstWord_le_iff (positive : 0 < n) {v : Nat} :
    firstWord n i ≤ v ↔ i * 0x100000000 ≤ n * v :=
  ceilDiv_le_iff_le_mul positive

theorem lt_firstWord_add_iff (positive : 0 < n) {v : Nat} :
    v < firstWord n i + share n ↔ n * v < i * 0x100000000 + n * share n := by
  -- Without the words of the share, this is the bound of the first word.
  have reached : firstWord n i + share n ≤ v ↔ i * 0x100000000 + n * share n ≤ n * v := by
    constructor
    · intro later
      obtain ⟨u, rfl⟩ : ∃ u, v = u + share n := ⟨v - share n, by omega⟩
      have least : firstWord n i ≤ u := by omega
      rw [Nat.mul_add]
      exact Nat.add_le_add_right ((firstWord_le_iff positive).mp least) _
    · intro reached
      have wide : share n ≤ v := Nat.le_of_mul_le_mul_left (by omega) positive
      obtain ⟨u, rfl⟩ : ∃ u, v = u + share n := ⟨v - share n, by omega⟩
      rw [Nat.mul_add] at reached
      have least := (firstWord_le_iff (i := i) positive).mpr (Nat.le_of_add_le_add_right reached)
      omega
  omega

/-- The accepted words of an index are consecutive. -/
theorem accepted_indexOf_iff (positive : 0 < n) (few : n < 0x100000000) (word : UInt32) :
    (accepts n word = true ∧ indexOf n word = i) ↔
      firstWord n i ≤ word.toNat ∧ word.toNat < firstWord n i + share n := by
  rw [accepted_product_iff positive few, firstWord_le_iff positive, lt_firstWord_add_iff positive]

/-- The words of an index are words indeed. -/
theorem firstWord_add_share_le (below : i < n) (few : n < 0x100000000) :
    firstWord n i + share n ≤ 0x100000000 := by
  have positive : 0 < n := Nat.zero_lt_of_lt below
  obtain ⟨-, small⟩ := highest_bit positive few
  apply Nat.le_of_not_lt
  intro beyond
  have product := (lt_firstWord_add_iff positive).mp beyond
  have rounds : (i + 1) * 0x100000000 ≤ n * 0x100000000 := Nat.mul_le_mul_right _ below
  omega

theorem wordOf_bijOn (below : i < n) (few : n < 0x100000000) :
    Set.BijOn (wordOf n i) (Finset.range (share n))
      {word | accepts n word = true ∧ indexOf n word = i} := by
  have positive : 0 < n := Nat.zero_lt_of_lt below
  have inRange := firstWord_add_share_le below few
  have value {r : Nat} (isPlace : r < share n) : (wordOf n i r).toNat = firstWord n i + r := by
    apply UInt32.toNat_ofNat_of_lt'
    show firstWord n i + r < 0x100000000
    omega
  refine ⟨?_, ?_, ?_⟩
  · intro r member
    have isPlace := Finset.mem_range.mp member
    apply (accepted_indexOf_iff positive few _).mpr
    rw [value isPlace]
    exact ⟨Nat.le_add_right _ _, Nat.add_lt_add_left isPlace _⟩
  · intro r member s memberToo same
    have same := congrArg UInt32.toNat same
    rw [value (Finset.mem_range.mp member), value (Finset.mem_range.mp memberToo)] at same
    exact Nat.add_left_cancel same
  · intro word accepted
    obtain ⟨least, bounded⟩ := (accepted_indexOf_iff positive few word).mp accepted
    refine ⟨word.toNat - firstWord n i, ?_, ?_⟩
    · apply Finset.mem_coe.mpr
      rw [Finset.mem_range]
      omega
    · rw [wordOf, Nat.add_sub_cancel' least, UInt32.ofNat_toNat]

/-- Every index has the same number of accepted words. -/
theorem ncard_indexOf (below : i < n) (few : n < 0x100000000) :
    {word | accepts n word = true ∧ indexOf n word = i}.ncard = share n := by
  rw [← (wordOf_bijOn below few).ncard_eq, Set.ncard_coe_finset, Finset.card_range]

/-- An accepted word is given by its index and its place among the words of the index. -/
theorem accepted_bijOn (positive : 0 < n) (few : n < 0x100000000) :
    Set.BijOn (fun p : Nat × Nat => wordOf n p.1 p.2)
      (Finset.range n ×ˢ Finset.range (share n) : Finset (Nat × Nat))
      {word | accepts n word = true} := by
  refine ⟨?_, ?_, ?_⟩
  · rintro ⟨i, r⟩ member
    obtain ⟨index, place⟩ := Finset.mem_product.mp (Finset.mem_coe.mp member)
    exact ((wordOf_bijOn (Finset.mem_range.mp index) few).mapsTo place).1
  · rintro ⟨i, r⟩ member ⟨j, s⟩ memberToo (same : wordOf n i r = wordOf n j s)
    obtain ⟨index, place⟩ := Finset.mem_product.mp (Finset.mem_coe.mp member)
    obtain ⟨indexToo, placeToo⟩ := Finset.mem_product.mp (Finset.mem_coe.mp memberToo)
    have words := wordOf_bijOn (Finset.mem_range.mp index) few
    have wordsToo := wordOf_bijOn (Finset.mem_range.mp indexToo) few
    have sameIndex : i = j := by
      calc i = indexOf n (wordOf n i r) := (words.mapsTo place).2.symm
        _ = indexOf n (wordOf n j s) := by rw [same]
        _ = j := (wordsToo.mapsTo placeToo).2
    subst sameIndex
    exact congrArg (Prod.mk i) (words.injOn place placeToo same)
  · intro word accepted
    have below := indexOf_lt positive word
    obtain ⟨r, isPlace, isWord⟩ := (wordOf_bijOn below few).surjOn ⟨accepted, rfl⟩
    refine ⟨(indexOf n word, r), ?_, isWord⟩
    exact Finset.mem_coe.mpr (Finset.mem_product.mpr ⟨Finset.mem_range.mpr below, isPlace⟩)

theorem ncard_accepts (positive : 0 < n) (few : n < 0x100000000) :
    {word | accepts n word = true}.ncard = n * share n := by
  rw [← (accepted_bijOn positive few).ncard_eq, Set.ncard_coe_finset, Finset.card_product,
    Finset.card_range, Finset.card_range]

/-- No index is left without a word. -/
theorem exists_indexOf (below : i < n) (few : n < 0x100000000) :
    ∃ word, accepts n word = true ∧ indexOf n word = i := by
  have some : {word | accepts n word = true ∧ indexOf n word = i}.ncard ≠ 0 := by
    rw [ncard_indexOf below few]
    exact Nat.ne_of_gt (share_pos n)
  exact Set.nonempty_of_ncard_ne_zero some

end LiteserverFleet.Random
