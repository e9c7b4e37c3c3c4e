/-!
A short name for a text: the polynomial hash with factor 31 over its UTF-16 code units, taken in
32-bit arithmetic, its absolute value written in base 36.
-/

namespace Phrasebook.Text

/-- UTF-16 code units of a character. -/
def codeUnits (c : Char) : List Nat :=
  let code := c.toNat
  if code < 0x10000 then [code]
  else [0xd800 + (code - 0x10000) / 0x400, 0xdc00 + (code - 0x10000) % 0x400]

/-- The number of 32-bit words. -/
def wordCount : Nat := 0x100000000

def hashUnits (units : List Nat) : Nat :=
  units.foldl (fun h unit => (h * 31 + unit) % wordCount) 0

/-- Distance from zero of the signed 32-bit number with this residue. -/
def magnitude (residue : Nat) : Nat :=
  if residue < wordCount / 2 then residue else wordCount - residue

def digit36 (n : Nat) : Char :=
  if n < 10 then Char.ofNat ('0'.toNat + n) else Char.ofNat ('a'.toNat + (n - 10))

/-- Base-36 digits, most significant first; none for zero. -/
def digits36 (n : Nat) : List Char :=
  if n = 0 then [] else digits36 (n / 36) ++ [digit36 (n % 36)]
termination_by n
decreasing_by omega

def toBase36 (n : Nat) : String :=
  if n = 0 then "0" else String.ofList (digits36 n)

def hash (text : String) : String :=
  toBase36 (magnitude (hashUnits (text.toList.flatMap codeUnits)))

end Phrasebook.Text
