import Phrasebook.Script.Word

/-!
Numbers of the script language. A number is kept as it is written: a whole number times a power of
ten. A digit or a letter right behind a number is an error.
-/

namespace Phrasebook.Script

/-- The number `mantissa * 10 ^ exponent`. -/
structure Numeral where
  mantissa : Nat
  exponent : Int
deriving DecidableEq, Repr

inductive NumberToken
  | number (value : Numeral)
  | integer (value : Nat)

namespace Numeral

def digitsValue (base : Nat) (cs : List Char) : Nat :=
  cs.foldl (fun n c => n * base + (hexValue? c).getD 0) 0

/-- Whether a character goes on with the digits of a number: a digit, or a line between digits. -/
def isDigitOf (base : Nat) (c : Char) : Bool := c == '_' || (hexValue? c).any (· < base)

def digitsOf (base : Nat) (cs : List Char) (p : Nat) : List Char × Cursor :=
  let (run, stop) := Cursor.takeWhile (isDigitOf base) cs p
  (run.filter (· != '_'), stop)

def finish (value : NumberToken) (stop : Cursor) :
    Except SyntaxError (NumberToken × Cursor) :=
  match stop.rest with
  | c :: _ =>
    if isWordPart c || c == '\\' then .error ⟨.badNumber, stop.position⟩ else .ok (value, stop)
  | [] => .ok (value, stop)

def radix (base : Nat) (cs : List Char) (p : Nat) : Except SyntaxError (NumberToken × Cursor) :=
  match digitsOf base cs p with
  | ([], stop) => .error ⟨.badNumber, stop.position⟩
  | (digits, ⟨'n' :: rest, q⟩) => finish (.integer (digitsValue base digits)) ⟨rest, q + 1⟩
  | (digits, stop) => finish (.number ⟨digitsValue base digits, 0⟩) stop

/-- An exponent part, if one is there. -/
def exponentPart (stop : Cursor) : Except SyntaxError (Int × Cursor) :=
  match stop.rest with
  | e :: rest =>
    if e == 'e' || e == 'E' then
      let (negative, rest, q) := match rest with
        | '+' :: rest => (false, rest, stop.position + 2)
        | '-' :: rest => (true, rest, stop.position + 2)
        | rest => (false, rest, stop.position + 1)
      match digitsOf 10 rest q with
      | ([], stop) => .error ⟨.badNumber, stop.position⟩
      | (digits, stop) =>
        let n : Int := digitsValue 10 digits
        .ok (if negative then -n else n, stop)
    else .ok (0, stop)
  | [] => .ok (0, stop)

/-- A decimal number: the digits before and behind the point and the power of ten. -/
def decimal (whole : List Char) (stop : Cursor) : Except SyntaxError (NumberToken × Cursor) :=
  match stop.rest with
  | 'n' :: rest => finish (.integer (digitsValue 10 whole)) ⟨rest, stop.position + 1⟩
  | '.' :: rest => do
    let (fraction, stop) := digitsOf 10 rest (stop.position + 1)
    let (exponent, stop) ← exponentPart stop
    finish (.number ⟨digitsValue 10 (whole ++ fraction), exponent - fraction.length⟩) stop
  | _ => do
    let (exponent, stop) ← exponentPart stop
    finish (.number ⟨digitsValue 10 whole, exponent⟩) stop

/-- Reads a number that begins with a digit or a point. A leading zero before other octal digits
makes an octal number. -/
def read (cs : List Char) (p : Nat) : Except SyntaxError (NumberToken × Cursor) :=
  match cs with
  | '0' :: c :: rest =>
    if c == 'x' || c == 'X' then radix 16 rest (p + 2)
    else if c == 'o' || c == 'O' then radix 8 rest (p + 2)
    else if c == 'b' || c == 'B' then radix 2 rest (p + 2)
    else
      let (digits, stop) := digitsOf 10 cs p
      if 1 < digits.length && digits.all (fun d => d.toNat < '8'.toNat) then
        finish (.number ⟨digitsValue 8 digits, 0⟩) stop
      else decimal digits stop
  | _ =>
    let (digits, stop) := digitsOf 10 cs p
    decimal digits stop

end Numeral
end Phrasebook.Script
