/-!
# Selections

A selection says to which workers a request may go: by a policy, and to workers with full history only or to
any.  A set of indices is kept as its ascending list, so equal sets are equal.
-/

set_option autoImplicit false

namespace LiteserverFleet

/-- A finite set of worker indices, as its ascending list. -/
structure IndexSet where
  toList : List Nat
  ascending : toList.Pairwise (· < ·)
deriving DecidableEq

namespace IndexSet

/-- Puts an index at its place in an ascending list that may hold it already. -/
def place (n : Nat) : List Nat → List Nat
  | [] => [n]
  | m :: rest => if n < m then n :: m :: rest else if n = m then m :: rest else m :: place n rest

theorem mem_place {n k : Nat} {ns : List Nat} : k ∈ place n ns ↔ k = n ∨ k ∈ ns := by
  induction ns with
  | nil => simp [place]
  | cons m rest ih =>
    unfold place
    split
    · simp
    · split
      · next h => subst h; simp
      · simp only [List.mem_cons, ih]; grind

theorem place_ascending {n : Nat} {ns : List Nat} (h : ns.Pairwise (· < ·)) :
    (place n ns).Pairwise (· < ·) := by
  induction ns with
  | nil => simp [place]
  | cons m rest ih =>
    have hrest := List.pairwise_cons.mp h
    unfold place
    split
    · next hlt =>
      refine List.pairwise_cons.mpr ⟨fun k hk => ?_, h⟩
      rcases List.mem_cons.mp hk with rfl | hk
      · exact hlt
      · exact Nat.lt_trans hlt (hrest.1 k hk)
    · split
      · exact h
      · next hlt hne =>
        refine List.pairwise_cons.mpr ⟨fun k hk => ?_, ih hrest.2⟩
        rcases mem_place.mp hk with rfl | hk
        · omega
        · exact hrest.1 k hk

def empty : IndexSet := ⟨[], .nil⟩

def insert (n : Nat) (s : IndexSet) : IndexSet :=
  ⟨place n s.toList, place_ascending s.ascending⟩

/-- The set of the elements of a list; order and repetition do not matter. -/
def ofList (ns : List Nat) : IndexSet :=
  ns.foldr insert empty

def contains (s : IndexSet) (n : Nat) : Bool :=
  s.toList.contains n

theorem mem_ofList {k : Nat} {ns : List Nat} : k ∈ (ofList ns).toList ↔ k ∈ ns := by
  induction ns with
  | nil => simp [ofList, empty]
  | cons n rest ih =>
    have step : (ofList (n :: rest)).toList = place n (ofList rest).toList := rfl
    rw [step, mem_place, ih, List.mem_cons]

end IndexSet

inductive Policy where
  | broadcast
  /-- One worker: the one with this index, or any. -/
  | single (index : Option Nat)
  | indices (wanted : IndexSet)
  /-- This many workers, or all if fewer are eligible. -/
  | count (n : Nat)
deriving DecidableEq

structure Selection where
  policy : Policy
  archival : Bool := false
deriving DecidableEq

end LiteserverFleet
