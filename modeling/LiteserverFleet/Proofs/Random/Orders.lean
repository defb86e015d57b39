import LiteserverFleet.Proofs.Random.Uniform
import Mathlib.Data.List.Permutation
import Mathlib.Data.Nat.Factorial.Basic

/-!
# Orders of a shuffle

The place drawn first decides which element comes last, and the places drawn later order the others; so the
sequences of places that may be drawn and the orders of distinct elements correspond one to one
(`arrange_bijOn`).  The sequences whose orders begin alike are as many as there are orders of the elements that are
left (`ncard_drawn_behind`).
-/

set_option autoImplicit false

namespace LiteserverFleet.Random

open scoped Nat

/-- Places that may be drawn for the exchanges of the places from `last` down to 1: for each of them, itself or one
before it. -/
structure Drawable (last : Nat) (drawn : List Nat) : Prop where
  length : drawn.length = last
  bounded : ∀ k j, drawn[k]? = some j → j ≤ last - k

/-! ## Drawn places -/

section Drawn

variable {last j : Nat} {js : List Nat}

theorem drawable_nil : Drawable 0 [] :=
  ⟨rfl, nofun⟩

theorem drawable_cons : Drawable (last + 1) (j :: js) ↔ j ≤ last + 1 ∧ Drawable last js := by
  constructor
  · intro drawable
    refine ⟨drawable.bounded 0 j rfl, Nat.succ.inj drawable.length, ?_⟩
    intro k i found
    have bound := drawable.bounded (k + 1) i found
    omega
  · rintro ⟨bound, length, bounded⟩
    refine ⟨congrArg (· + 1) length, ?_⟩
    intro k i found
    cases k with
    | zero =>
        cases Option.some.inj found
        exact bound
    | succ k =>
        have bound := bounded k i found
        omega

theorem Drawable.eq_cons (drawable : Drawable (last + 1) js) :
    ∃ j rest, js = j :: rest ∧ j ≤ last + 1 ∧ Drawable last rest := by
  cases js with
  | nil => cases drawable.length
  | cons j rest => exact ⟨j, rest, rfl, drawable_cons.mp drawable⟩

/-- Whatever is drawn may be drawn. -/
theorem drawable_of_exchanges? {σ : Type} [WordSource σ] {source rest : σ}
    (drawn : exchanges? last source = some (js, rest)) : Drawable last js := by
  induction last generalizing source js rest with
  | zero =>
      cases Option.some.inj drawn
      exact drawable_nil
  | succ last ih =>
      obtain ⟨⟨j, behind⟩, rolled, drawn⟩ := Option.bind_eq_some_iff.mp drawn
      obtain ⟨⟨others, behindOthers⟩, drawnOthers, same⟩ := Option.bind_eq_some_iff.mp drawn
      cases Option.some.inj same
      have bound := roll?_lt (Nat.succ_pos _) rolled
      exact drawable_cons.mpr ⟨Nat.le_of_lt_succ bound, ih drawnOthers⟩

/-- Every sequence of places that may be drawn is drawn from some words. -/
theorem exists_exchanges? (few : last + 1 < 0x100000000) (drawable : Drawable last js) :
    ∃ words : List UInt32, exchanges? last words = some (js, []) := by
  induction last generalizing js with
  | zero =>
      cases List.length_eq_zero_iff.mp drawable.length
      exact ⟨[], rfl⟩
  | succ last ih =>
      obtain ⟨j, rest, rfl, bound, drawableRest⟩ := drawable.eq_cons
      obtain ⟨words, drawn⟩ := ih (by omega) drawableRest
      obtain ⟨word, accepted, index⟩ := exists_indexOf (Nat.lt_succ_of_le bound) few
      have rolled : Die.roll? ⟨last + 2⟩ (word :: words) = some (j, words) := by
        rw [← index]
        exact @roll?_of_accepts _ _ ⟨last + 2⟩ (word :: words) accepted
      refine ⟨word :: words, ?_⟩
      simp only [exchanges?, rolled, Option.bind_eq_bind, Option.bind_some, drawn]
      rfl

end Drawn

/-! ## Arrangements -/

section Arrangements

variable {α : Type} {xs chosen : List α} {last j : Nat} {x : α}

theorem swap_append {i j : Nat} (first : i < xs.length) (second : j < xs.length) (ys : List α) :
    swap (xs ++ ys) i j = swap xs i j ++ ys := by
  have secondSet (y : α) : j < (xs.set i y).length := by rwa [List.length_set]
  simp only [swap, List.getElem?_append_left first, List.getElem?_append_left second,
    List.getElem?_eq_getElem first, List.getElem?_eq_getElem second,
    List.set_append_left _ _ first, List.set_append_left _ _ (secondSet _)]

/-- What stands behind the places of the exchanges stays there. -/
theorem arrange_append {drawn : List Nat} (drawable : Drawable last drawn) (present : last < xs.length)
    (ys : List α) : arrange (xs ++ ys) last drawn = arrange xs last drawn ++ ys := by
  induction last generalizing xs drawn with
  | zero =>
      cases List.length_eq_zero_iff.mp drawable.length
      rfl
  | succ last ih =>
      obtain ⟨j, rest, rfl, bound, drawableRest⟩ := drawable.eq_cons
      have length := (swap_perm xs (last + 1) j).length_eq
      rw [arrange, arrange, swap_append present (Nat.lt_of_le_of_lt bound present)]
      exact ih drawableRest (by omega)

/-- The first exchange brings the element at the drawn place to the end. -/
theorem swap_last (whole : xs.length = last + 1) (found : xs[j]? = some x) :
    ∃ front, front.length = last ∧ swap xs last j = front ++ [x] := by
  obtain ⟨present, isElement⟩ := List.getElem?_eq_some_iff.mp found
  have inRange : last < xs.length := by omega
  have length : (swap xs last j).length = last + 1 := by rw [(swap_perm xs last j).length_eq, whole]
  have atEnd : (swap xs last j)[last]? = some x := by
    simp only [swap, List.getElem?_eq_getElem inRange, List.getElem?_eq_getElem present, isElement]
    by_cases same : j = last
    · subst same
      simp [isElement, inRange]
    · rw [List.getElem?_set_ne same]
      simp [inRange]
  refine ⟨(swap xs last j).take last, ?_, ?_⟩
  · rw [List.length_take]
    omega
  · obtain ⟨_, isLast⟩ := List.getElem?_eq_some_iff.mp atEnd
    rw [← isLast, List.take_append_getElem, List.take_of_length_le (Nat.le_of_eq length)]

/-- The place drawn first decides the last element; the other places arrange the elements in front of it. -/
theorem arrange_succ (whole : xs.length = last + 2) (found : xs[j]? = some x) :
    ∃ front, front.length = last + 1 ∧ (front ++ [x]).Perm xs ∧
      ∀ rest, Drawable last rest → arrange xs (last + 1) (j :: rest) = arrange front last rest ++ [x] := by
  obtain ⟨front, length, swapped⟩ := swap_last whole found
  refine ⟨front, length, ?_, ?_⟩
  · rw [← swapped]
    exact swap_perm xs (last + 1) j
  · intro rest drawable
    rw [arrange, swapped]
    exact arrange_append drawable (by omega) [x]

theorem exists_getElem? (whole : xs.length = last + 1) (bound : j ≤ last) : ∃ x, xs[j]? = some x :=
  ⟨xs[j], List.getElem?_eq_getElem (by omega)⟩

theorem arrange_injOn (distinct : xs.Nodup) (whole : xs.length = last + 1) :
    Set.InjOn (arrange xs last) {drawn | Drawable last drawn} := by
  induction last generalizing xs with
  | zero =>
      intro js drawable ks drawableToo _
      rw [List.length_eq_zero_iff.mp drawable.length, List.length_eq_zero_iff.mp drawableToo.length]
  | succ last ih =>
      intro js drawable ks drawableToo same
      obtain ⟨j, js, rfl, bound, drawableRest⟩ := Drawable.eq_cons drawable
      obtain ⟨k, ks, rfl, boundToo, drawableRestToo⟩ := Drawable.eq_cons drawableToo
      obtain ⟨x, foundX⟩ := exists_getElem? whole bound
      obtain ⟨y, foundY⟩ := exists_getElem? whole boundToo
      obtain ⟨front, length, perm, arranged⟩ := arrange_succ whole foundX
      obtain ⟨frontToo, -, -, arrangedToo⟩ := arrange_succ whole foundY
      -- The last element tells the place drawn first, and the elements in front of it tell the others.
      have samePlace : j = k := by
        rw [arranged js drawableRest, arrangedToo ks drawableRestToo] at same
        have sameLast : x = y := List.singleton_inj.mp (List.append_inj_right' same rfl)
        rw [← sameLast] at foundY
        exact (List.getElem?_inj (by omega) distinct).mp (foundX.trans foundY.symm)
      subst samePlace
      rw [arranged js drawableRest, arranged ks drawableRestToo] at same
      have distinctFront : front.Nodup := (List.nodup_append.mp (perm.nodup_iff.mpr distinct)).1
      rw [ih distinctFront length drawableRest drawableRestToo (List.append_cancel_right same)]

theorem arrange_surjOn (distinct : xs.Nodup) (whole : xs.length = last + 1) :
    Set.SurjOn (arrange xs last) {drawn | Drawable last drawn} {order | order.Perm xs} := by
  induction last generalizing xs with
  | zero =>
      intro order perm
      obtain ⟨x, rfl⟩ := List.length_eq_one_iff.mp whole
      exact ⟨[], drawable_nil, (List.perm_singleton.mp perm).symm⟩
  | succ last ih =>
      intro order perm
      have perm : order.Perm xs := perm
      have notEmpty : order ≠ [] := by
        rintro rfl
        have := perm.length_eq
        rw [whole] at this
        cases this
      obtain ⟨others, x, rfl⟩ : ∃ others x, order = others ++ [x] :=
        ⟨_, _, (List.dropLast_append_getLast notEmpty).symm⟩
      -- The place of the last element is drawn first; the others are arranged by the induction.
      have member : x ∈ xs := perm.subset (List.mem_append_right _ List.mem_cons_self)
      obtain ⟨j, foundX⟩ := List.mem_iff_getElem?.mp member
      have bound : j < xs.length := (List.getElem?_eq_some_iff.mp foundX).1
      obtain ⟨front, length, permFront, arranged⟩ := arrange_succ whole foundX
      have distinctFront : front.Nodup := (List.nodup_append.mp (permFront.nodup_iff.mpr distinct)).1
      have permOthers : others.Perm front :=
        (List.perm_append_right_iff [x]).mp (perm.trans permFront.symm)
      obtain ⟨rest, drawable, isOthers⟩ := ih distinctFront length permOthers
      refine ⟨j :: rest, drawable_cons.mpr ⟨by omega, drawable⟩, ?_⟩
      rw [arranged rest drawable, isOthers]

/-- Each order of distinct elements is arranged by exactly one sequence of places. -/
theorem arrange_bijOn (distinct : xs.Nodup) (whole : xs.length = last + 1) :
    Set.BijOn (arrange xs last) {drawn | Drawable last drawn} {order | order.Perm xs} :=
  ⟨fun drawn _ => arrange_perm xs last drawn, arrange_injOn distinct whole,
    arrange_surjOn distinct whole⟩

/-! ## Numbers of orders -/

theorem ncard_orders (distinct : xs.Nodup) : {order : List α | order.Perm xs}.ncard = xs.length ! := by
  classical
  have permutations : {order : List α | order.Perm xs} = (xs.permutations.toFinset : Set (List α)) := by
    ext order
    simp
  rw [permutations, Set.ncard_coe_finset,
    List.toFinset_card_of_nodup (List.nodup_permutations xs distinct), List.length_permutations]

/-- The orders that begin with chosen elements are those of the elements that are left. -/
theorem ncard_orders_behind (distinct : xs.Nodup) (distinctChosen : chosen.Nodup)
    (chosenFrom : ∀ x ∈ chosen, x ∈ xs) :
    {order : List α | order.Perm xs ∧ order.take chosen.length = chosen}.ncard =
      (xs.length - chosen.length) ! := by
  classical
  let left := xs.filter fun x => x ∉ chosen
  have distinctLeft : left.Nodup := distinct.filter _
  have perm : (chosen ++ left).Perm xs := by
    have apart : chosen.Disjoint left := by
      intro x isChosen isLeft
      simp [left, isChosen] at isLeft
    apply (List.perm_ext_iff_of_nodup (distinctChosen.append distinctLeft apart) distinct).mpr
    intro x
    have known := chosenFrom x
    simp only [left, List.mem_append, List.mem_filter, decide_eq_true_eq]
    tauto
  have behind : {order : List α | order.Perm xs ∧ order.take chosen.length = chosen} =
      (chosen ++ ·) '' {rest | rest.Perm left} := by
    ext order
    constructor
    · rintro ⟨permOrder, begins⟩
      have split : chosen ++ order.drop chosen.length = order := by
        conv_rhs => rw [← List.take_append_drop chosen.length order, begins]
      refine ⟨order.drop chosen.length, ?_, split⟩
      apply (List.perm_append_left_iff chosen).mp
      rw [split]
      exact permOrder.trans perm.symm
    · rintro ⟨rest, permRest, rfl⟩
      exact ⟨((List.perm_append_left_iff chosen).mpr permRest).trans perm, List.take_left⟩
  have length : left.length = xs.length - chosen.length := by
    rw [← perm.length_eq, List.length_append, Nat.add_sub_cancel_left]
  rw [behind, Set.ncard_image_of_injective _ (List.append_right_injective chosen), ncard_orders distinctLeft,
    length]

/-- Every choice of elements in order begins equally many arrangements: as many as the elements that are left have
orders. -/
theorem ncard_drawn_behind (distinct : xs.Nodup) (whole : xs.length = last + 1) (distinctChosen : chosen.Nodup)
    (chosenFrom : ∀ x ∈ chosen, x ∈ xs) {n : Nat} (length : chosen.length = min n xs.length) :
    {drawn | Drawable last drawn ∧ (arrange xs last drawn).take n = chosen}.ncard =
      (xs.length - chosen.length) ! := by
  have arranged := arrange_bijOn distinct whole
  have taken {order : List α} (perm : order.Perm xs) : order.take n = order.take chosen.length := by
    rw [List.take_eq_take_min, perm.length_eq, length]
  have begins : Set.BijOn (arrange xs last)
      {drawn | Drawable last drawn ∧ (arrange xs last drawn).take n = chosen}
      {order | order.Perm xs ∧ order.take chosen.length = chosen} := by
    refine ⟨?_, arranged.injOn.mono fun drawn both => both.1, ?_⟩
    · rintro drawn ⟨drawable, cut⟩
      have perm := arranged.mapsTo drawable
      exact ⟨perm, (taken perm).symm.trans cut⟩
    · rintro order ⟨perm, begins⟩
      obtain ⟨drawn, drawable, rfl⟩ := arranged.surjOn perm
      exact ⟨drawn, ⟨drawable, (taken perm).trans begins⟩, rfl⟩
  rw [begins.ncard_eq, ncard_orders_behind distinct distinctChosen chosenFrom]

end Arrangements

end LiteserverFleet.Random
