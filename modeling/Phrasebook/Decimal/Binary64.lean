/-!
Binary numbers of 64 bits, written exactly: a sign, a whole number below `2 ^ 53` and a power of
two, or infinity. A decimal number is rounded to the nearest one; of two that are equally near, to
the one with the even mantissa.
-/

namespace Phrasebook

inductive Binary64
  | finite (negative : Bool) (mantissa : Nat) (exponent : Int)
  | infinite (negative : Bool)
deriving DecidableEq, Repr

namespace Binary64

/-- The whole number nearest to a fraction, even if two are equally near. -/
def roundEven (numerator denominator : Nat) : Nat :=
  let q := numerator / denominator
  let r := numerator % denominator
  if 2 * r < denominator || (2 * r == denominator && q % 2 == 0) then q else q + 1

/-- The least mantissa with all its 53 bits in use. -/
def leastMantissa : Nat := 0x10000000000000

/-- Numerator and denominator of `m * base ^ e`. -/
def scaled (m base : Nat) (e : Int) : Nat × Nat :=
  if 0 ≤ e then (m * Nat.pow base e.toNat, 1) else (m, Nat.pow base (-e).toNat)

/-- Numerator and denominator of a fraction in units of `2 ^ e`. -/
def inUnits (numerator denominator : Nat) (e : Int) : Nat × Nat :=
  if 0 ≤ e then (numerator, denominator * Nat.pow 2 e.toNat)
  else (numerator * Nat.pow 2 (-e).toNat, denominator)

/-- The largest `e` with `2 ^ e ≤ numerator / denominator`. -/
def binaryOrder (numerator denominator : Nat) : Int :=
  let e : Int := (Nat.log2 numerator : Int) - (Nat.log2 denominator : Int)
  let (high, low) := inUnits numerator denominator e
  if low ≤ high then e else e - 1

def zero (negative : Bool) : Binary64 := finite negative 0 0

/-- The number nearest to a fraction. A mantissa of more than 53 bits after rounding is one power of
two. -/
def ofFraction (negative : Bool) (numerator denominator : Nat) : Binary64 :=
  let e := max (-1074) (binaryOrder numerator denominator - 52)
  let (high, low) := inUnits numerator denominator e
  let m := roundEven high low
  if m = 0 then zero negative
  else
    let (m, e) := if m = 2 * leastMantissa then (leastMantissa, e + 1) else (m, e)
    if 971 < e then infinite negative else finite negative m e

/-- The number nearest to `mantissa * 10 ^ exponent`. Numbers far outside the range are decided by
their size alone. -/
def ofDecimal (negative : Bool) (mantissa : Nat) (exponent : Int) : Binary64 :=
  let order : Int := (Nat.log2 mantissa : Int) * 30103 / 100000 + exponent
  if mantissa = 0 || order < -400 then zero negative
  else if 400 < order then infinite negative
  else
    let (numerator, denominator) := scaled mantissa 10 exponent
    ofFraction negative numerator denominator

end Binary64
end Phrasebook
