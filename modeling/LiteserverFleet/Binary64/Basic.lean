/-!
# Finite binary64 numbers

A magnitude is `mantissa * 2 ^ exponent` with at most 53 bits in the mantissa, and as many as the
least exponent allows.  Every operation is the exact rational result followed by one rounding to
the nearest magnitude, a half going to the even mantissa.  The arithmetic is on natural numbers, so
nothing depends on the machine's floating-point unit.
-/

set_option autoImplicit false

namespace LiteserverFleet.Binary64

/-- The size of a number: `mantissa * 2 ^ exponent`. -/
structure Magnitude where
  mantissa : Nat
  exponent : Int
deriving DecidableEq

def leastExponent : Int := -1074

def greatestExponent : Int := 971

/-- The integer nearest to `num / den`; of two equally near ones, the even one. -/
def nearestInt (num den : Nat) : Nat :=
  let quotient := num / den
  let rest := num % den
  if 2 * rest < den then quotient
  else if den < 2 * rest then quotient + 1
  else quotient + quotient % 2

def unitsOf (num den : Nat) : Int → Nat × Nat
  | .ofNat k => (num, den <<< k)
  | .negSucc k => (num <<< (k + 1), den)

/-- The magnitude nearest to `num / den`, with an unbounded exponent upwards.

The bit lengths put the quotient, counted in units of `2 ^ guess`, between `2 ^ 52` and `2 ^ 54`, so
one comparison finds the exponent at which the mantissa has 53 bits. -/
def Magnitude.nearest (num den : Nat) : Magnitude :=
  if num = 0 then ⟨0, leastExponent⟩
  else
    let guess : Int := (num.log2 : Int) - (den.log2 : Int) - 53
    let counted := unitsOf num den guess
    let fitting := if counted.1 / counted.2 < 0x20000000000000 then guess else guess + 1
    let exponent := max fitting leastExponent
    let units := unitsOf num den exponent
    let mantissa := nearestInt units.1 units.2
    if mantissa = 0x20000000000000 then ⟨0x10000000000000, exponent + 1⟩ else ⟨mantissa, exponent⟩

namespace Magnitude

def isFinite (a : Magnitude) : Bool :=
  a.exponent ≤ greatestExponent

def isZero (a : Magnitude) : Bool :=
  a.mantissa = 0

def fraction (a : Magnitude) : Nat × Nat :=
  match a.exponent with
  | .ofNat k => (a.mantissa <<< k, 1)
  | .negSucc k => (a.mantissa, 1 <<< (k + 1))

def times (a b : Magnitude) : Magnitude :=
  let x := a.fraction
  let y := b.fraction
  nearest (x.1 * y.1) (x.2 * y.2)

def dividedBy (a b : Magnitude) : Magnitude :=
  let x := a.fraction
  let y := b.fraction
  nearest (x.1 * y.2) (x.2 * y.1)

def powerOfTen (k : Nat) : Magnitude :=
  nearest (Nat.pow 10 k) 1

/-- Shifts the decimal point of `a` by `places`, in steps of at most 308 places, each of them one
rounded multiplication or division by a power of ten.  `none` when the result is not finite. -/
def shiftDecimal? (a : Magnitude) (places : Int) : Option Magnitude :=
  if 308 < places then
    if a.isZero then some a else none
  else if 0 ≤ places then
    let product := a.times (powerOfTen places.toNat)
    if product.isFinite then some product else none
  else if -308 ≤ places then some (a.dividedBy (powerOfTen (-places).toNat))
  else if a.isZero then some a
  else shiftDecimal? (a.dividedBy (powerOfTen 308)) (places + 308)
termination_by (-places).toNat

end Magnitude

end LiteserverFleet.Binary64

namespace LiteserverFleet

structure Binary64 where
  negative : Bool
  magnitude : Binary64.Magnitude
deriving DecidableEq

namespace Binary64

example : Magnitude.nearest 1 10 = ⟨0x1999999999999A, -56⟩ := by decide +kernel

/-- The least positive magnitude, and a value below half of it. -/
example : Magnitude.nearest 1 (2 ^ 1074) = ⟨1, -1074⟩ ∧ Magnitude.nearest 1 (2 ^ 1075) = ⟨0, -1074⟩ := by
  decide +kernel

example : Magnitude.nearest (2 ^ 53 + 1) 1 = ⟨2 ^ 52, 1⟩ ∧
    Magnitude.nearest (2 ^ 53 + 3) 1 = ⟨2 ^ 52 + 2, 1⟩ := by
  decide +kernel

end Binary64

end LiteserverFleet
