import LiteserverFleet.Random.Source
import LiteserverFleet.Request.Selection

/-!
# Routing

Which workers a request goes to.  Only eligible workers are candidates: alive ones, and ones with full history if
the request asks for it.  A worker that was asked for by index is never replaced by another one, and a policy
that leaves no choice draws nothing from the source.
-/

set_option autoImplicit false

namespace LiteserverFleet

class Eligible (ω : Type) where
  isAlive : ω → Bool
  isArchival : ω → Bool

namespace Routing

variable {ω σ : Type} [Eligible ω] [WordSource σ]

def isCandidate (archival : Bool) (worker : ω) : Bool :=
  Eligible.isAlive worker && (!archival || Eligible.isArchival worker)

/-- The indices of the candidates, counted from `first` on. -/
def candidatesFrom (archival : Bool) : Nat → List ω → List Nat
  | _, [] => []
  | first, worker :: rest =>
      if isCandidate archival worker then first :: candidatesFrom archival (first + 1) rest
      else candidatesFrom archival (first + 1) rest

def candidates (archival : Bool) (workers : List ω) : List Nat :=
  candidatesFrom archival 0 workers

/-- The workers that a selection routes to, with the source behind the draws; `none` if a draw does not
complete.  An empty list means that nothing is eligible. -/
def select? (workers : List ω) (selection : Selection) (source : σ) : Option (List Nat × σ) :=
  let eligible := candidates selection.archival workers
  if eligible.isEmpty then some ([], source)
  else match selection.policy with
    | .broadcast => some (eligible, source)
    | .single (some index) =>
        let found := eligible.toArray.binSearchContains index (· < ·)
        some (if found then [index] else [], source)
    | .single none => (Random.choose? eligible source).map fun (index, source) => ([index], source)
    | .indices wanted => some (eligible.filter wanted.contains, source)
    | .count n => (Random.shuffle? eligible source).map fun (order, source) => (order.take n, source)

end Routing

end LiteserverFleet
