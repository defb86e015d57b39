import LiteserverFleet.Binary64.Basic

/-!
# The shortest decimal that reads back

Of all decimals that round to a given magnitude, the one with the fewest digits is found by trying
the grids of one, two, and up to seventeen significant digits.  On each grid only the two neighbours of
the value matter: if any point of the grid lies in the rounding interval, one of them does.
-/

set_option autoImplicit false

namespace LiteserverFleet.Binary64

def digitCount (n : Nat) : Nat :=
  (Nat.toDigits 10 n).length

def leadingExponent (num den : Nat) : Int :=
  if den ≤ num then (digitCount (num / den) : Int) - 1
  else -(digitCount ((den + num - 1) / num - 1) : Int)

structure Decimal where
  digits : Nat
  exponent : Int
deriving DecidableEq

namespace Magnitude

/-- The neighbour of the value on the grid of multiples of `10 ^ grid` that rounds to it: of two such
neighbours the nearer, and the even one if they are equally near.

All quantities are integers in one unit: `point` is the distance of two grid points, `quarter` a quarter of
the mantissa's unit.  The interval below a power of two is half as wide, and the ends of the interval
round to the value exactly when its mantissa is even. -/
def onGrid? (a : Magnitude) (grid : Int) : Option Decimal :=
  let quarterExponent := a.exponent - 2
  let point := Nat.pow 10 grid.toNat <<< (-quarterExponent).toNat
  let quarter := Nat.pow 10 (-grid).toNat <<< quarterExponent.toNat
  let value := 4 * a.mantissa * quarter
  let narrow := a.mantissa = 0x10000000000000 && leastExponent < a.exponent
  let low := (4 * a.mantissa - if narrow then 1 else 2) * quarter
  let high := (4 * a.mantissa + 2) * quarter
  let closed := a.mantissa % 2 = 0
  let inside (n : Nat) : Bool :=
    if closed then low ≤ n * point && n * point ≤ high else low < n * point && n * point < high
  let below := value / point
  let above := if value % point = 0 then below else below + 1
  let toBelow := value - below * point
  let toAbove := above * point - value
  let nearer := if toBelow < toAbove || (toBelow = toAbove && below % 2 = 0) then below else above
  let farther := if nearer = below then above else below
  if inside nearer then some ⟨nearer, grid⟩
  else if inside farther then some ⟨farther, grid⟩
  else none

/-- The shortest decimal that rounds to a positive magnitude.  Seventeen digits always suffice. -/
def shortest (a : Magnitude) : Decimal :=
  let value := a.fraction
  let lead := leadingExponent value.1 value.2
  let grids := (List.range 17).map fun (n : Nat) => lead - (n : Int)
  (grids.findSome? a.onGrid?).getD ⟨0, 0⟩

end Magnitude

example : (Magnitude.nearest 1 10).shortest = ⟨1, -1⟩ := by decide +kernel

example : (Magnitude.nearest 1 3).shortest = ⟨3333333333333333, -16⟩ := by decide +kernel

example : (Magnitude.mk 1 (-1074)).shortest = ⟨5, -324⟩ := by decide +kernel

example : (Magnitude.mk (2 ^ 53 - 1) 971).shortest = ⟨17976931348623157, 292⟩ := by decide +kernel

end LiteserverFleet.Binary64
