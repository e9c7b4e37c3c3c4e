import Phrasebook.Json.Value

/-!
Reading of JSON. The reader takes the notation strictly: no comments, no comma at the end, no
control characters in texts, no half of a surrogate pair, and no more than 127 levels of brackets.
-/

namespace Phrasebook.Json

inductive Fault
  | unexpected
  | unclosedText
  | controlCharacter
  | badEscape
  | badNumber
  | tooDeep
  | trailing
deriving DecidableEq, Repr

def Fault.message : Fault → String
  | unexpected => "expected value"
  | unclosedText => "EOF while parsing a string"
  | controlCharacter => "control character found while parsing a string"
  | badEscape => "invalid escape"
  | badNumber => "invalid number"
  | tooDeep => "recursion limit exceeded"
  | trailing => "trailing characters"

def isBlank (c : Char) : Bool := c == ' ' || c == '\n' || c == '\t' || c == '\r'

def skipBlanks (cs : List Char) : List Char := cs.dropWhile isBlank

def hexValue? (c : Char) : Option Nat :=
  if c.isDigit then some (c.toNat - '0'.toNat)
  else if 'a' ≤ c && c ≤ 'f' then some (c.toNat - 'a'.toNat + 10)
  else if 'A' ≤ c && c ≤ 'F' then some (c.toNat - 'A'.toNat + 10)
  else none

def hexNumber? (a b c d : Char) : Option Nat := do
  return (((← hexValue? a) * 16 + (← hexValue? b)) * 16 + (← hexValue? c)) * 16 + (← hexValue? d)

/-- The characters that a letter behind a backslash stands for. -/
def letterEscape? : Char → Option Char
  | '"' => some '"'
  | '\\' => some '\\'
  | '/' => some '/'
  | 'b' => some '\x08'
  | 'f' => some '\x0c'
  | 'n' => some '\n'
  | 'r' => some '\r'
  | 't' => some '\t'
  | _ => none

/-- The characters of a text up to its closing quote, and what follows it. -/
def readText : List Char → Except Fault (List Char × List Char)
  | [] => .error .unclosedText
  | '"' :: cs => .ok ([], cs)
  | '\\' :: 'u' :: a :: b :: c :: d :: cs =>
    match hexNumber? a b c d with
    | none => .error .badEscape
    | some high =>
      if 0xd800 ≤ high && high < 0xdc00 then
        match cs with
        | '\\' :: 'u' :: e :: f :: g :: h :: cs =>
          match hexNumber? e f g h with
          | none => .error .badEscape
          | some low =>
            if 0xdc00 ≤ low && low < 0xe000 then
              (readText cs).map fun (body, rest) =>
                (Char.ofNat (0x10000 + (high - 0xd800) * 0x400 + (low - 0xdc00)) :: body, rest)
            else .error .badEscape
        | _ => .error .badEscape
      else if 0xdc00 ≤ high && high < 0xe000 then .error .badEscape
      else (readText cs).map fun (body, rest) => (Char.ofNat high :: body, rest)
  | '\\' :: c :: cs =>
    match letterEscape? c with
    | some d => (readText cs).map fun (body, rest) => (d :: body, rest)
    | none => .error .badEscape
  | c :: cs =>
    if c == '\\' then .error .badEscape
    else if c.toNat < 0x20 then .error .controlCharacter
    else (readText cs).map fun (body, rest) => (c :: body, rest)

def digitsValue (cs : List Char) : Nat :=
  cs.foldl (fun n c => n * 10 + (c.toNat - '0'.toNat)) 0

private def splitDigits (cs : List Char) : List Char × List Char :=
  (cs.takeWhile Char.isDigit, cs.dropWhile Char.isDigit)

/-- A fraction and an exponent; the flag says whether one of them is there. -/
private def readScale (cs : List Char) : Except Fault (Bool × List Char × Int × List Char) := do
  let (hasFraction, fraction, cs) ← match cs with
    | '.' :: rest =>
      let (digits, rest) := splitDigits rest
      if digits.isEmpty then .error Fault.badNumber else .ok (true, digits, rest)
    | _ => .ok (false, [], cs)
  match cs with
  | e :: rest =>
    if e == 'e' || e == 'E' then
      let (negative, rest) := match rest with
        | '-' :: rest => (true, rest)
        | '+' :: rest => (false, rest)
        | _ => (false, rest)
      let (digits, rest) := splitDigits rest
      if digits.isEmpty then .error .badNumber
      else
        let n : Int := digitsValue digits
        .ok (true, fraction, if negative then -n else n, rest)
    else .ok (hasFraction, fraction, 0, cs)
  | [] => .ok (hasFraction, fraction, 0, cs)

/-- A number is whole if it has neither fraction nor exponent and fits into 64 bits; a binary number
must be finite. -/
private def numberOf (negative : Bool) (whole fraction : List Char) (scaled : Bool)
    (exponent : Int) : Except Fault Json :=
  let n := digitsValue whole
  if !scaled && !negative && n < 0x10000000000000000 then .ok (number (.whole n))
  else if !scaled && negative && n ≠ 0 && n ≤ 0x8000000000000000 then .ok (number (.whole (-n)))
  else
    match Binary64.ofDecimal negative (digitsValue (whole ++ fraction))
        (exponent - fraction.length) with
    | .infinite _ => .error .badNumber
    | value => .ok (number (.binary value))

def readNumber (cs : List Char) : Except Fault (Json × List Char) := do
  let (negative, cs) := match cs with
    | '-' :: rest => (true, rest)
    | _ => (false, cs)
  let (whole, rest) := splitDigits cs
  match whole with
  | [] => .error (if negative then .badNumber else .unexpected)
  | '0' :: _ :: _ => .error .badNumber
  | _ =>
    let (scaled, fraction, exponent, rest) ← readScale rest
    let value ← numberOf negative whole fraction scaled exponent
    return (value, rest)

/-- What may stand behind a whole number: nothing that would go on with it. -/
def EndsNumber (rest : List Char) : Prop :=
  ∀ c, rest.head? = some c → c.isDigit = false ∧ c ∉ ['.', 'e', 'E']

private theorem readScale_of_ends {rest : List Char} (ends : EndsNumber rest) :
    readScale rest = .ok (false, [], 0, rest) := by
  cases rest with
  | nil => rfl
  | cons c rest =>
    obtain ⟨-, other⟩ := ends c rfl
    simp only [List.mem_cons, List.not_mem_nil, or_false, not_or] at other
    obtain ⟨point, small, large⟩ := other
    have exponent : (c == 'e' || c == 'E') = false := by simp [small, large]
    unfold readScale
    split
    · rename_i same
      exact absurd (List.cons.inj same).1 point
    · simp only [bind, Except.bind, exponent]
      rfl

/-- Digits without a needless zero in front are read as their value, if that has no more than 64
bits. -/
theorem readNumber_digits {digits rest : List Char} (filled : digits ≠ [])
    (all : ∀ c ∈ digits, c.isDigit = true) (lead : digits.head? = some '0' → digits = ['0'])
    (ends : EndsNumber rest) (small : digitsValue digits < 0x10000000000000000) :
    readNumber (digits ++ rest) = .ok (number (.whole (digitsValue digits)), rest) := by
  have parts : splitDigits (digits ++ rest) = (digits, rest) := by
    have stops : rest.takeWhile Char.isDigit = [] ∧ rest.dropWhile Char.isDigit = rest := by
      cases rest with
      | nil => exact ⟨rfl, rfl⟩
      | cons c rest => simp [(ends c rfl).1]
    rw [splitDigits, List.takeWhile_append_of_pos all,
      List.dropWhile_append_of_pos all, stops.1, stops.2, List.append_nil]
  have whole : numberOf false digits [] false 0 = .ok (number (.whole (digitsValue digits))) := by
    simp [numberOf, small]
  cases digits with
  | nil => contradiction
  | cons c digits =>
    have unsigned : c ≠ '-' := by
      rintro rfl
      exact absurd (all '-' List.mem_cons_self) (by decide)
    rw [List.cons_append] at parts ⊢
    unfold readNumber
    split
    rename_i negative chars same
    split at same
    · rename_i first
      exact absurd (List.cons.inj first).1 unsigned
    · cases same
      simp only [parts]
      split
      · contradiction
      · rename_i second
        have single := lead (by rw [second]; rfl)
        rw [second] at single
        cases single
      · simp only [readScale_of_ends ends, bind, Except.bind, whole]
        rfl

mutual

/-- A value behind blanks, and what follows it. The first number bounds the work, the second one the
levels of brackets that may still be opened. -/
def readValue : Nat → Nat → List Char → Except Fault (Json × List Char)
  | 0, _, _ => .error .unexpected
  | fuel + 1, depth, cs =>
    match skipBlanks cs with
    | 'n' :: 'u' :: 'l' :: 'l' :: rest => .ok (null, rest)
    | 't' :: 'r' :: 'u' :: 'e' :: rest => .ok (boolean true, rest)
    | 'f' :: 'a' :: 'l' :: 's' :: 'e' :: rest => .ok (boolean false, rest)
    | '"' :: rest => (readText rest).map fun (chars, rest) => (text (String.ofList chars), rest)
    | '[' :: rest =>
      match depth with
      | 0 => .error .tooDeep
      | depth + 1 =>
        match skipBlanks rest with
        | ']' :: rest => .ok (array [], rest)
        | rest => (readItems fuel depth rest).map fun (items, rest) => (array items, rest)
    | '\x7b' :: rest =>
      match depth with
      | 0 => .error .tooDeep
      | depth + 1 =>
        match skipBlanks rest with
        | '\x7d' :: rest => .ok (object [], rest)
        | rest => (readMembers fuel depth rest).map fun (members, rest) => (object members, rest)
    | rest => readNumber rest

/-- Items of an array up to its closing bracket. -/
def readItems : Nat → Nat → List Char → Except Fault (List Json × List Char)
  | 0, _, _ => .error .unexpected
  | fuel + 1, depth, cs => do
    let (item, rest) ← readValue fuel depth cs
    match skipBlanks rest with
    | ',' :: rest => do
      let (items, rest) ← readItems fuel depth rest
      return (item :: items, rest)
    | ']' :: rest => return ([item], rest)
    | _ => throw .unexpected

/-- Members of an object up to its closing brace. -/
def readMembers : Nat → Nat → List Char → Except Fault (List (String × Json) × List Char)
  | 0, _, _ => .error .unexpected
  | fuel + 1, depth, cs => do
    match skipBlanks cs with
    | '"' :: rest => do
      let (name, rest) ← readText rest
      match skipBlanks rest with
      | ':' :: rest => do
        let (value, rest) ← readValue fuel depth rest
        match skipBlanks rest with
        | ',' :: rest => do
          let (members, rest) ← readMembers fuel depth rest
          return ((String.ofList name, value) :: members, rest)
        | '\x7d' :: rest => return ([(String.ofList name, value)], rest)
        | _ => throw .unexpected
      | _ => throw .unexpected
    | _ => throw .unexpected

end

/-- The value that a whole text spells. -/
def read (source : List Char) : Except Fault Json := do
  let (value, rest) ← readValue (2 * source.length + 2) 127 source
  if (skipBlanks rest).isEmpty then return value else throw .trailing

end Phrasebook.Json
