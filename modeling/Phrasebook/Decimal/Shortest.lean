import Phrasebook.Decimal.Binary64

/-!
The shortest decimal digits that read back as a given binary number. Of the decimal numbers with the
fewest digits that round to it, the nearest one is taken.
-/

namespace Phrasebook

/-- The number `digits * 10 ^ exponent`, where the digits do not end in zero. -/
structure DecimalDigits where
  digits : Nat
  exponent : Int
deriving DecidableEq, Repr

namespace DecimalDigits

/-- The decimal numbers that round to a binary number: those between two bounds, which have a common
denominator with the number itself. -/
structure Interval where
  low : Nat
  value : Nat
  high : Nat
  denominator : Nat
  closed : Bool

/-- The interval of `m * 2 ^ e`. Below a power of two the neighbours are half as far apart. -/
def intervalOf (m : Nat) (e : Int) : Interval :=
  let (unit, denominator) := Binary64.scaled 1 2 (e - 2)
  let below := if m = Binary64.leastMantissa && decide (-1074 < e) then 1 else 2
  ⟨(4 * m - below) * unit, 4 * m * unit, (4 * m + 2) * unit, denominator, m % 2 == 0⟩

def Interval.holds (i : Interval) (numerator denominator : Nat) : Bool :=
  let x := numerator * i.denominator
  let low := i.low * denominator
  let high := i.high * denominator
  if i.closed then decide (low ≤ x) && decide (x ≤ high) else decide (low < x) && decide (x < high)

/-- A point of the grid with step `10 ^ p` in the interval, the nearest one to its value. -/
def onGrid? (i : Interval) (p : Int) : Option Nat :=
  let (step, parts) := Binary64.scaled 1 10 p
  let lower := i.value * parts / (i.denominator * step)
  let remainder := i.value * parts % (i.denominator * step)
  let upper := lower + 1
  let lowerIn := 0 < lower && i.holds (lower * step) parts
  let upperIn := i.holds (upper * step) parts
  let nearLower := 2 * remainder < i.denominator * step
    || (2 * remainder == i.denominator * step && lower % 2 == 0)
  if lowerIn && upperIn then some (if nearLower then lower else upper)
  else if lowerIn then some lower
  else if upperIn then some upper
  else none

def search (i : Interval) : Nat → Int → Nat × Int
  | 0, p => ((onGrid? i p).getD 0, p)
  | n + 1, p =>
    match onGrid? i p with
    | some digits => (digits, p)
    | none => search i n (p - 1)

def dropZeros : Nat → Nat → Int → DecimalDigits
  | 0, digits, exponent => ⟨digits, exponent⟩
  | n + 1, digits, exponent =>
    if digits ≠ 0 && digits % 10 == 0 then dropZeros n (digits / 10) (exponent + 1)
    else ⟨digits, exponent⟩

/-- The shortest digits of `m * 2 ^ e`. The search starts at a power of ten above the number and
goes down to one that seventeen digits reach. -/
def ofBinary (m : Nat) (e : Int) : DecimalDigits :=
  if m = 0 then ⟨0, 0⟩
  else
    let order : Int := ((Nat.log2 m : Int) + e) * 30103 / 100000
    let (digits, exponent) := search (intervalOf m e) 22 (order + 2)
    dropZeros 20 digits exponent

def text (n : Nat) : String := toString n

def zeros (n : Nat) : String := String.ofList (List.replicate n '0')

/-- The digits with a point where it belongs, and no exponent. -/
def positional (d : DecimalDigits) : String :=
  let digits := text d.digits
  if 0 ≤ d.exponent then digits ++ zeros d.exponent.toNat
  else
    let places := (-d.exponent).toNat
    if places < digits.length then
      let whole := digits.length - places
      String.ofList (digits.toList.take whole) ++ "." ++ String.ofList (digits.toList.drop whole)
    else "0." ++ zeros (places - digits.length) ++ digits

/-- One digit, a point, the others, and an exponent with its sign. -/
def scientific (d : DecimalDigits) : String :=
  let digits := (text d.digits).toList
  let exponent := d.exponent + digits.length - 1
  let sign := if exponent < 0 then "-" else "+"
  let fraction := if digits.length ≤ 1 then "" else "." ++ String.ofList (digits.drop 1)
  String.ofList (digits.take 1) ++ fraction ++ "e" ++ sign ++ text exponent.natAbs

end DecimalDigits

namespace Binary64

/-- The plain notation: never an exponent, and no point behind a whole number. -/
def plain : Binary64 → String
  | .infinite negative => if negative then "-inf" else "inf"
  | .finite negative m e =>
    (if negative then "-" else "") ++ (DecimalDigits.ofBinary m e).positional

/-- The notation of data files: a whole number has one zero behind the point, and numbers of more
than sixteen places or below `10 ^ -5` have an exponent. -/
def dataText? : Binary64 → Option String
  | .infinite _ => none
  | .finite negative m e =>
    let d := DecimalDigits.ofBinary m e
    let order := d.exponent + (toString d.digits).length
    let body := if order ≤ -5 || 16 < order then d.scientific
      else if 0 ≤ d.exponent then d.positional ++ ".0"
      else d.positional
    some ((if negative then "-" else "") ++ body)

end Binary64
end Phrasebook
