import Phrasebook.Proofs.Decimal.Shortest
import Phrasebook.Proofs.Json.Reading
import Phrasebook.Proofs.Script.Token

/-!
Numbers that are written and read again. A number is written with digits behind its point, or with
an exponent, and a script reads this text as the same number of digits and powers of ten; the binary
number that comes of it is the one that was written.
-/

namespace Phrasebook.Script

open Text Binary64

/-- A number as it is written: digits, perhaps a point and more digits, and perhaps an exponent with
its sign. -/
structure NumberText where
  whole : List Char
  fraction : Option (List Char)
  /-- Whether the exponent is negative, and its digits. -/
  exponent : Option (Bool × List Char)

namespace NumberText

def exponentChars : Option (Bool × List Char) → List Char
  | none => []
  | some (negative, digits) => 'e' :: (if negative then '-' else '+') :: digits

def exponentValue : Option (Bool × List Char) → Int
  | none => 0
  | some (negative, digits) =>
    if negative then -(Nat.ofDigitChars 10 digits 0 : Int) else Nat.ofDigitChars 10 digits 0

def fractionChars : Option (List Char) → List Char
  | none => []
  | some digits => '.' :: digits

def chars (text : NumberText) : List Char :=
  text.whole ++ (fractionChars text.fraction ++ exponentChars text.exponent)

def numeral (text : NumberText) : Numeral where
  mantissa := Nat.ofDigitChars 10 (text.whole ++ text.fraction.getD []) 0
  exponent := exponentValue text.exponent - (text.fraction.getD []).length

/-- A number that is a number in every place: no zero stands in front of other digits, and a point
or an exponent tells it from a whole number. -/
structure Plain (text : NumberText) : Prop where
  whole : ∀ c ∈ text.whole, c.isDigit = true
  filled : text.whole ≠ []
  lead : text.whole.head? = some '0' → text.whole = ['0']
  fraction : ∀ c ∈ text.fraction.getD [], c.isDigit = true
  exponent : ∀ part ∈ text.exponent, part.2 ≠ [] ∧ ∀ c ∈ part.2, c.isDigit = true
  marked : text.fraction = none → text.exponent ≠ none

end NumberText

namespace Numeral

theorem hexValue?_digit {c : Char} (digit : c.isDigit = true) :
    hexValue? c = some (c.toNat - '0'.toNat) := if_pos digit

/-- Digits are counted as decimal digits are. -/
theorem digitsValue_eq {cs : List Char} (digits : ∀ c ∈ cs, c.isDigit = true) :
    digitsValue 10 cs = Nat.ofDigitChars 10 cs 0 := by
  have general (cs : List Char) (digits : ∀ c ∈ cs, c.isDigit = true) (n : Nat) :
      cs.foldl (fun n c => n * 10 + (hexValue? c).getD 0) n = Nat.ofDigitChars 10 cs n := by
    induction cs generalizing n with
    | nil => rfl
    | cons c cs ih =>
      obtain ⟨first, others⟩ := List.forall_mem_cons.mp digits
      rw [List.foldl_cons, ih others, Nat.ofDigitChars_cons, hexValue?_digit first, Nat.mul_comm]
      rfl
  exact general cs digits 0

/-- The characters that digits may be followed by. -/
def EndsDigits (rest : List Char) : Prop :=
  ∀ c ∈ rest.head?, c ≠ '_' ∧ c.isDigit = false

theorem EndsDigits.of_endsWord {rest : List Char} (ends : EndsWord rest) : EndsDigits rest := by
  intro c first
  have part := ends.head c first
  simp only [isWordPart, Char.isAlphanum, Bool.or_eq_false_iff, beq_eq_false_iff_ne] at part
  tauto

theorem isDigitOf_digit {c : Char} (digit : c.isDigit = true) : isDigitOf 10 c = true := by
  have small := bounds_of_isDigit digit
  rw [isDigitOf, hexValue?_digit digit, Bool.or_eq_true, Option.any_some, decide_eq_true_eq]
  right
  change c.toNat - 48 < 10
  omega

theorem isDigitOf_other {c : Char} (score : c ≠ '_') (other : c.isDigit = false) :
    isDigitOf 10 c = false := by
  rw [isDigitOf, beq_eq_false_iff_ne.mpr score, Bool.false_or, hexValue?, other,
    if_neg Bool.false_ne_true]
  split_ifs
  · exact decide_eq_false (show ¬ c.toNat - 'a'.toNat + 10 < 10 by omega)
  · exact decide_eq_false (show ¬ c.toNat - 'A'.toNat + 10 < 10 by omega)
  · rfl

theorem digitsOf_append {digits rest : List Char} (all : ∀ c ∈ digits, c.isDigit = true)
    (ends : EndsDigits rest) (p : Nat) :
    digitsOf 10 (digits ++ rest) p = (digits, ⟨rest, p + byteLength digits⟩) := by
  have plain : digits.filter (· != '_') = digits := by
    refine List.filter_eq_self.mpr fun c member => ?_
    rw [bne_iff_ne]
    rintro rfl
    exact absurd (all '_' member) (by decide)
  have run := Cursor.takeWhile_append (fun c member => isDigitOf_digit (all c member))
    (fun c first => isDigitOf_other (ends c first).1 (ends c first).2) p
  rw [digitsOf, run]
  simp only [plain]

theorem finish_of_endsWord {rest : List Char} (ends : EndsWord rest) (value : NumberToken)
    (p : Nat) : finish value ⟨rest, p⟩ = .ok (value, ⟨rest, p⟩) := by
  cases rest with
  | nil => rfl
  | cons c rest =>
    have apart : (isWordPart c || c == '\\') = false := by
      rw [ends.1, beq_eq_false_iff_ne.mpr ends.2]
      rfl
    rw [finish]
    simp only
    rw [apart]
    rfl

theorem exponentPart_signed (negative : Bool) {digits rest : List Char} (filled : digits ≠ [])
    (all : ∀ c ∈ digits, c.isDigit = true) (ends : EndsWord rest) (p : Nat) :
    exponentPart ⟨'e' :: (if negative then '-' else '+') :: (digits ++ rest), p⟩ =
      .ok (NumberText.exponentValue (some (negative, digits)),
        ⟨rest, p + 2 + byteLength digits⟩) := by
  have run := digitsOf_append all (.of_endsWord ends) (p + 2)
  have value := digitsValue_eq all
  obtain ⟨c, cs, rfl⟩ := List.exists_cons_of_ne_nil filled
  rw [NumberText.exponentValue, ← value]
  cases negative <;>
  · rw [exponentPart]
    simp only [beq_self_eq_true, Bool.true_or, Bool.false_eq_true, if_true, if_false, run]

/-- An exponent is read, if one is written. -/
theorem exponentPart_append {exponent : Option (Bool × List Char)}
    (valid : ∀ part ∈ exponent, part.2 ≠ [] ∧ ∀ c ∈ part.2, c.isDigit = true) {rest : List Char}
    (ends : EndsWord rest) (p : Nat) :
    exponentPart ⟨NumberText.exponentChars exponent ++ rest, p⟩ =
      .ok (NumberText.exponentValue exponent,
        ⟨rest, p + byteLength (NumberText.exponentChars exponent)⟩) := by
  cases exponent with
  | none =>
    rw [NumberText.exponentChars, List.nil_append]
    cases rest with
    | nil => rfl
    | cons c rest =>
      have part := ends.1
      have other : (c == 'e' || c == 'E') = false := by
        rw [Bool.or_eq_false_iff, beq_eq_false_iff_ne, beq_eq_false_iff_ne]
        constructor <;> rintro rfl <;> exact absurd part (by decide)
      rw [exponentPart]
      simp only
      rw [other]
      rfl
  | some part =>
    obtain ⟨negative, digits⟩ := part
    obtain ⟨filled, all⟩ := valid _ rfl
    have length : p + 2 + byteLength digits =
        p + byteLength (NumberText.exponentChars (some (negative, digits))) := by
      have marks : 'e'.utf8Size = 1 ∧ (if negative then '-' else '+').utf8Size = 1 := by
        cases negative <;> exact ⟨rfl, rfl⟩
      rw [NumberText.exponentChars, byteLength, byteLength, marks.1, marks.2]
      omega
    rw [← length]
    exact exponentPart_signed negative filled all ends p

/-- The whole digits are read up to a point or an exponent. -/
theorem read_whole {whole rest : List Char} (all : ∀ c ∈ whole, c.isDigit = true)
    (filled : whole ≠ []) (lead : whole.head? = some '0' → whole = ['0'])
    (marked : ∀ c ∈ rest.head?, c = '.' ∨ c = 'e') (p : Nat) :
    read (whole ++ rest) p = decimal whole ⟨rest, p + byteLength whole⟩ := by
  have ends : EndsDigits rest := by
    intro c first
    rcases marked c first with rfl | rfl <;> exact ⟨by decide, by decide⟩
  have run := digitsOf_append all ends p
  unfold read
  split
  · rename_i c later same
    have zero : whole = ['0'] := by
      obtain ⟨d, ds, rfl⟩ := List.exists_cons_of_ne_nil filled
      exact lead (congrArg some (List.cons.inj same).1)
    subst zero
    obtain rfl : rest = c :: later := (List.cons.inj same).2
    rcases marked c rfl with rfl | rfl <;> rfl
  · simp only [run]

/-- The digits behind a point and an exponent are read. -/
theorem decimal_append {text : NumberText} (plain : text.Plain) {rest : List Char}
    (ends : EndsWord rest) (p : Nat) :
    decimal text.whole ⟨NumberText.fractionChars text.fraction ++
        (NumberText.exponentChars text.exponent ++ rest), p⟩ =
      .ok (.number text.numeral, ⟨rest, p + byteLength (NumberText.fractionChars text.fraction) +
        byteLength (NumberText.exponentChars text.exponent)⟩) := by
  obtain ⟨whole, fraction, exponent⟩ := text
  cases fraction with
  | none =>
    obtain ⟨⟨negative, digits⟩, rfl⟩ := Option.ne_none_iff_exists'.mp (plain.marked rfl)
    have value : digitsValue 10 whole = Nat.ofDigitChars 10 whole 0 := digitsValue_eq plain.whole
    have read := exponentPart_append plain.exponent ends p
    simp only [NumberText.fractionChars, NumberText.exponentChars, List.nil_append,
      List.cons_append] at read ⊢
    unfold decimal
    simp only
    rw [read]
    refine (finish_of_endsWord ends _ _).trans ?_
    simp only [NumberText.numeral, value, Option.getD_none, List.append_nil, List.length_nil,
      Nat.cast_zero, sub_zero, byteLength, Nat.add_zero]
  | some digits =>
    have all : ∀ c ∈ digits, c.isDigit = true := plain.fraction
    have value : digitsValue 10 (whole ++ digits) = Nat.ofDigitChars 10 (whole ++ digits) 0 :=
      digitsValue_eq (List.forall_mem_append.mpr ⟨plain.whole, all⟩)
    have tail : EndsDigits (NumberText.exponentChars exponent ++ rest) := by
      cases exponent with
      | none => exact .of_endsWord ends
      | some part =>
        rintro c ⟨⟩
        exact ⟨by decide, by decide⟩
    have run := digitsOf_append all tail (p + 1)
    have read := exponentPart_append plain.exponent ends (p + 1 + byteLength digits)
    simp only [NumberText.fractionChars, List.cons_append] at read ⊢
    unfold decimal
    simp only [run]
    rw [read]
    refine (finish_of_endsWord ends _ _).trans ?_
    have point : '.'.utf8Size = 1 := rfl
    simp only [NumberText.numeral, value, Option.getD_some, byteLength, point, Nat.add_assoc]

end Numeral

namespace NumberText

/-- A number is read as its digits and power of ten. -/
theorem Plain.read {text : NumberText} (plain : text.Plain) {rest : List Char}
    (ends : EndsWord rest) (p : Nat) :
    Numeral.read (text.chars ++ rest) p =
      .ok (.number text.numeral, ⟨rest, p + byteLength text.chars⟩) := by
  have marked : ∀ c ∈ (fractionChars text.fraction ++
      (exponentChars text.exponent ++ rest)).head?, c = '.' ∨ c = 'e' := by
    intro c first
    cases point : text.fraction with
    | some digits =>
      rw [point] at first
      exact .inl (Option.some.inj first).symm
    | none =>
      obtain ⟨part, power⟩ := Option.ne_none_iff_exists'.mp (plain.marked point)
      rw [point, power] at first
      exact .inr (Option.some.inj first).symm
  rw [chars, List.append_assoc, List.append_assoc,
    Numeral.read_whole plain.whole plain.filled plain.lead marked,
    Numeral.decimal_append plain ends]
  simp only [byteLength_append, Nat.add_assoc]

theorem Plain.head {text : NumberText} (plain : text.Plain) :
    ∃ c cs, text.chars = c :: cs ∧ c.isDigit = true := by
  obtain ⟨c, cs, form⟩ := List.exists_cons_of_ne_nil plain.filled
  exact ⟨c, _, by rw [chars, form, List.cons_append], plain.whole c (form ▸ List.mem_cons_self)⟩

/-- A number is one token. -/
theorem Plain.nextLexeme {text : NumberText} (plain : text.Plain) {rest : List Char}
    (ends : EndsWord rest) (p : Nat) (first : Bool) :
    nextLexeme ⟨text.chars ++ rest, p⟩ first =
      (⟨.number text.numeral, ⟨text.chars ++ rest, p⟩, ⟨rest, p + byteLength text.chars⟩, first⟩,
        []) := by
  obtain ⟨c, cs, form, digit⟩ := plain.head
  have read := plain.read ends p
  rw [form, List.cons_append] at read ⊢
  have other {d : Char} (mark : d.isDigit = false) : c ≠ d := by
    rintro rfl
    rw [mark] at digit
    cases digit
  have quote : (c == '"' || c == '\'') = false := by
    rw [beq_eq_false_iff_ne.mpr (other rfl), beq_eq_false_iff_ne.mpr (other rfl)]
    rfl
  have token : readToken ⟨c :: (cs ++ rest), p⟩ =
      (.number text.numeral, ⟨rest, p + byteLength (c :: cs)⟩) := by
    rw [readToken]
    simp only
    rw [quote, digit, Bool.true_or, if_neg Bool.false_ne_true, if_pos rfl, read]
  have gap : gapAt ⟨c :: (cs ++ rest), p⟩ first = ⟨⟨c :: (cs ++ rest), p⟩, first, []⟩ := by
    have blank : isBlank c = false := by
      rw [isBlank, isSpace_eq_false_of_isDigit digit, beq_eq_false_iff_ne.mpr (other (by decide))]
      rfl
    rw [gapAt, skipGap]
    · rw [blank]
      rfl
    · rintro _ rfl
      exact (other (d := '/') rfl rfl).elim
    · rintro _ rfl
      exact (other (d := '/') rfl rfl).elim
    · rintro _ rfl
      exact (other (d := '<') rfl rfl).elim
    · rintro _ _ rfl
      exact (other (d := '-') rfl rfl).elim
  rw [Script.nextLexeme, gap]
  simp only
  rw [token]

end NumberText

end Phrasebook.Script
