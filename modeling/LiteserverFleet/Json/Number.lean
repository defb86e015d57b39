import LiteserverFleet.Binary64.Shortest

/-!
# JSON numbers

A number is an integer as far as 64 bits reach, signed or unsigned, and a binary64 number otherwise.
Integers are written as they are; a binary64 number is written with the fewest digits that read back.
-/

set_option autoImplicit false

namespace LiteserverFleet.Json

inductive Number where
  | integer (value : Int) (inRange : -0x8000000000000000 ≤ value ∧ value < 0x10000000000000000)
  | binary (value : Binary64)
deriving DecidableEq

namespace Number

/-- The number nearest to an integer: itself, within 64 bits. -/
def ofInt (value : Int) : Number :=
  if inRange : -0x8000000000000000 ≤ value ∧ value < 0x10000000000000000 then .integer value inRange
  else .binary ⟨value < 0, Binary64.Magnitude.nearest value.natAbs 1⟩

def naturalDigits (n : Nat) : List Char :=
  Nat.toDigits 10 n

def integerDigits (value : Int) : List Char :=
  if value < 0 then '-' :: naturalDigits value.natAbs else naturalDigits value.natAbs

/-- Which decimal exponents are written positionally; all others get an exponent mark. -/
structure Layout where
  leastPlain : Int
  greatestPlain : Int

def layout : Layout := ⟨-5, 15⟩

/-- The significant digits of a positive decimal, without trailing zeros, and the exponent of the
first of them. -/
def significant (d : Binary64.Decimal) : List Char × Int :=
  let digits := naturalDigits d.digits
  ((digits.reverse.dropWhile (· = '0')).reverse, d.exponent + (digits.length : Int) - 1)

def plainDigits (digits : List Char) (lead : Int) : List Char :=
  if lead < 0 then '0' :: '.' :: List.replicate (-lead - 1).toNat '0' ++ digits
  else
    let whole := lead.toNat + 1
    if digits.length ≤ whole then
      digits ++ List.replicate (whole - digits.length) '0' ++ ['.', '0']
    else digits.take whole ++ '.' :: digits.drop whole

def scientificDigits (digits : List Char) (lead : Int) : List Char :=
  let fraction := match digits with
    | first :: second :: rest => first :: '.' :: second :: rest
    | _ => digits
  fraction ++ 'e' :: (if lead < 0 then '-' else '+') :: naturalDigits lead.natAbs

def magnitudeDigits (a : Binary64.Magnitude) : List Char :=
  if a.isZero then ['0', '.', '0']
  else
    let (digits, lead) := significant a.shortest
    if layout.leastPlain ≤ lead && lead ≤ layout.greatestPlain then plainDigits digits lead
    else scientificDigits digits lead

def binaryDigits (x : Binary64) : List Char :=
  if x.negative then '-' :: magnitudeDigits x.magnitude else magnitudeDigits x.magnitude

def digits : Number → List Char
  | .integer value _ => integerDigits value
  | .binary value => binaryDigits value

example : String.ofList (binaryDigits ⟨false, .nearest 1 100000⟩) = "0.00001" := by decide +kernel

example : String.ofList (binaryDigits ⟨true, .nearest (2 ^ 63) 1⟩) = "-9.223372036854776e+18" := by
  decide +kernel

example : String.ofList (binaryDigits ⟨false, .nearest (10 ^ 15) 1⟩) = "1000000000000000.0" := by
  decide +kernel

example : String.ofList (binaryDigits ⟨false, .nearest (10 ^ 16) 1⟩) = "1e+16" := by decide +kernel

example : String.ofList (binaryDigits ⟨true, .nearest 0 1⟩) = "-0.0" := by decide +kernel

end Number

end LiteserverFleet.Json
