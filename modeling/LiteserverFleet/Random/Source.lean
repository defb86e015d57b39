/-!
# Random choices from a source of words

A source yields words of 32 bits.  An index below `n` is the high half of a word times `n`; words whose low
half falls behind the last full round of indices are passed over, so every index has equally many
words.  At least half of all words are accepted.  A draw goes on until a word is accepted; it does not
complete if none ever is.

A shuffle first draws the position with which each place, from the last to the second, is exchanged, and then
performs the exchanges, so that the draws depend on the number of elements only.
-/

set_option autoImplicit false

namespace LiteserverFleet

class WordSource (σ : Type) where
  next : σ → UInt32 × σ

namespace Random

def spareBits (n : Nat) : Nat :=
  31 - n.log2

/-- The greatest low half of a product that is accepted. -/
def acceptedUpTo (n : Nat) : Nat :=
  (n <<< spareBits n) - 1

def accepts (n : Nat) (word : UInt32) : Bool :=
  word.toNat * n % 0x100000000 ≤ acceptedUpTo n

def indexOf (n : Nat) (word : UInt32) : Nat :=
  word.toNat * n / 0x100000000

section Draws

variable {σ : Type} [WordSource σ]

/-- A die, rolled for an index below the number of its faces. -/
structure Die where
  faces : Nat

/-- The index of the first accepted word.  If no word is ever accepted, there is none. -/
def Die.roll? (die : Die) (source : σ) : Option (Nat × σ) :=
  let (word, source) := WordSource.next source
  if accepts die.faces word then some (indexOf die.faces word, source)
  else die |>.roll? source
partial_fixpoint

def choose? {α : Type} (xs : List α) (source : σ) : Option (α × σ) := do
  let (i, source) ← Die.roll? ⟨xs.length⟩ source
  let x ← xs[i]?
  pure (x, source)

/-- Draws, for the places from `last` down to 1, the place with which each is exchanged: itself or one
before it. -/
def exchanges? : Nat → σ → Option (List Nat × σ)
  | 0, source => some ([], source)
  | last + 1, source => do
      let (j, source) ← Die.roll? ⟨last + 2⟩ source
      let (js, source) ← exchanges? last source
      pure (j :: js, source)

def swap {α : Type} (xs : List α) (i j : Nat) : List α :=
  match xs[i]?, xs[j]? with
  | some x, some y => (xs.set i y).set j x
  | _, _ => xs

/-- Exchanges the elements at the places from `last` down with those at the drawn places. -/
def arrange {α : Type} (xs : List α) (last : Nat) : List Nat → List α
  | [] => xs
  | j :: js => arrange (swap xs last j) (last - 1) js

def shuffle? {α : Type} (xs : List α) (source : σ) : Option (List α × σ) := do
  let last := xs.length - 1
  let (js, source) ← exchanges? last source
  pure (arrange xs last js, source)

end Draws

end Random

end LiteserverFleet
