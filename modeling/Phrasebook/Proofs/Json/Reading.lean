import Phrasebook.Json.Printer
import Phrasebook.Json.Reader
import Mathlib.Data.List.DropRight

/-!
Reading of printed JSON. A character of a quoted text stands for itself, or it is written with a
letter behind a backslash or with its number; each of the three forms is read back as the character.
A value is read back from its indented form, whatever its texts and names hold, if its numbers are
natural numbers of 64 bits and its brackets do not go deeper than the reader does.
-/

namespace Phrasebook.Json

/-- Letters behind a backslash, with the characters that they stand for. -/
def letterEscapes : List (Char × Char) := [
  ('"', '"'), ('\\', '\\'), ('b', '\x08'), ('f', '\x0c'), ('n', '\n'), ('r', '\r'), ('t', '\t')]

/-- The forms in which a character is written. -/
inductive Escaped : Char → List Char → Prop
  | letter {e c : Char} (known : (e, c) ∈ letterEscapes) : Escaped c ['\\', e]
  | control {c : Char} (low : c.toNat < 0x20) :
    Escaped c ['\\', 'u', '0', '0', hexDigit (c.toNat / 16), hexDigit (c.toNat % 16)]
  | plain {c : Char} (quote : c ≠ '"') (backslash : c ≠ '\\')
      (high : 0x20 ≤ c.toNat) : Escaped c [c]

theorem escaped_escapeChar (c : Char) : Escaped c (escapeChar c) := by
  by_cases known : c ∈ letterEscapes.map (·.2)
  · simp only [letterEscapes, List.map_cons, List.map_nil, List.mem_cons,
      List.not_mem_nil, or_false] at known
    rcases known with rfl | rfl | rfl | rfl | rfl | rfl | rfl <;> exact .letter (by decide)
  · simp only [letterEscapes, List.map_cons, List.map_nil, List.mem_cons,
      List.not_mem_nil, or_false, not_or] at known
    obtain ⟨quote, backslash, backspace, feed, line, carriage, tab⟩ := known
    rw [escapeChar, if_neg quote, if_neg backslash, if_neg backspace, if_neg feed, if_neg line,
      if_neg carriage, if_neg tab]
    split
    · rename_i low
      exact .control low
    · rename_i high
      exact .plain quote backslash (Nat.le_of_not_lt high)

theorem hexValue?_hexDigit : ∀ n < 16, hexValue? (hexDigit n) = some n := by decide

/-- A control character is read back from its number. -/
theorem readText_control {c : Char} (control : c.toNat < 0x20) (rest : List Char) :
    readText ('\\' :: 'u' :: '0' :: '0' :: hexDigit (c.toNat / 16) ::
      hexDigit (c.toNat % 16) :: rest) = (readText rest).map fun (body, rest) =>
    (c :: body, rest) := by
  have code : hexNumber? '0' '0' (hexDigit (c.toNat / 16)) (hexDigit (c.toNat % 16)) =
      some c.toNat := by
    rw [hexNumber?, hexValue?_hexDigit _ (by omega), hexValue?_hexDigit _ (by omega),
      show hexValue? '0' = some 0 by decide]
    simp only [Option.pure_def, Option.bind_eq_bind, Option.bind_some, Option.some.injEq]
    omega
  have high : (decide (0xd800 ≤ c.toNat) && decide (c.toNat < 0xdc00)) = false := by
    rw [Bool.and_eq_false_iff, decide_eq_false_iff_not]
    omega
  have low : (decide (0xdc00 ≤ c.toNat) && decide (c.toNat < 0xe000)) = false := by
    rw [Bool.and_eq_false_iff, decide_eq_false_iff_not]
    omega
  rw [readText, code]
  simp only [high, low, Bool.false_eq_true, if_false, Char.ofNat_toNat]

/-- One character of a text is read back, with an escape or without. -/
theorem readText_escapeChar (c : Char) (rest : List Char) :
    readText (escapeChar c ++ rest) = (readText rest).map fun (body, rest) =>
      (c :: body, rest) := by
  have escaped := escaped_escapeChar c
  generalize escapeChar c = form at escaped ⊢
  cases escaped with
  | letter known =>
    simp only [letterEscapes, List.mem_cons, Prod.mk.injEq, List.not_mem_nil, or_false] at known
    rcases known with ⟨rfl, rfl⟩ | ⟨rfl, rfl⟩ | ⟨rfl, rfl⟩ | ⟨rfl, rfl⟩ | ⟨rfl, rfl⟩ | ⟨rfl, rfl⟩ |
      ⟨rfl, rfl⟩ <;> rfl
  | control low => exact readText_control low rest
  | plain quote backslash high =>
    have plain : (c == '\\') = false := by simpa using backslash
    rw [List.singleton_append, readText]
    · rw [plain, if_neg Bool.false_ne_true, if_neg (Nat.not_lt.mpr high)]
    · exact quote
    · exact fun _ _ _ _ _ same => absurd same backslash
    · exact fun _ _ same => absurd same backslash

/-- A text is read back from its quoted form. -/
theorem readText_quoted (chars rest : List Char) :
    readText (chars.flatMap escapeChar ++ '"' :: rest) = .ok (chars, rest) := by
  induction chars with
  | nil => rfl
  | cons c chars ih =>
    rw [List.flatMap_cons, List.append_assoc, readText_escapeChar, ih]
    rfl

/-- Natural numbers of 64 bits. -/
def Fits (n : Nat) : Prop := n < 0x10000000000000000

instance (n : Nat) : Decidable (Fits n) := inferInstanceAs (Decidable (n < 0x10000000000000000))

/-- Values with no numbers but natural ones of 64 bits, and with no more than these levels of
brackets. -/
inductive Storable : Nat → Json → Prop
  | null {levels : Nat} : Storable levels .null
  | boolean {levels : Nat} (value : Bool) : Storable levels (.boolean value)
  | natural {levels n : Nat} (small : Fits n) : Storable levels (.natural n)
  | text {levels : Nat} (value : String) : Storable levels (.text value)
  | array {levels : Nat} {items : List Json} (each : ∀ item ∈ items, Storable levels item) :
    Storable (levels + 1) (.array items)
  | object {levels : Nat} {members : List (String × Json)}
    (each : ∀ member ∈ members, Storable levels member.2) : Storable (levels + 1) (.object members)

/-- That a value is read back from its indented form, if no more digits follow. -/
def Reads (levels : Nat) (value : Json) : Prop :=
  ∀ depth fuel rest, (prettyChars depth value).length ≤ fuel → EndsNumber rest →
    readValue fuel levels (prettyChars depth value ++ rest) = .ok (value, rest)

theorem skipBlanks_skipBlanks (cs : List Char) : skipBlanks (skipBlanks cs) = skipBlanks cs :=
  List.dropWhile_idempotent _ _

theorem skipBlanks_cons {c : Char} (visible : isBlank c = false) (cs : List Char) :
    skipBlanks (c :: cs) = c :: cs := by
  rw [skipBlanks, List.dropWhile_cons_of_neg (by simp [visible])]

theorem skipBlanks_newLine (depth : Nat) (cs : List Char) :
    skipBlanks (newLine depth ++ cs) = skipBlanks cs := by
  refine List.dropWhile_append_of_pos fun c member => ?_
  obtain rfl | member := List.mem_cons.mp member
  · rfl
  · rw [List.eq_of_mem_replicate member]
    rfl

theorem readValue_skipBlanks (fuel levels : Nat) (cs : List Char) :
    readValue fuel levels (skipBlanks cs) = readValue fuel levels cs := by
  cases fuel with
  | zero => rw [readValue, readValue]
  | succ fuel => rw [readValue, readValue, skipBlanks_skipBlanks]

theorem readItems_skipBlanks (fuel levels : Nat) (cs : List Char) :
    readItems fuel levels (skipBlanks cs) = readItems fuel levels cs := by
  cases fuel with
  | zero => rw [readItems, readItems]
  | succ fuel => rw [readItems, readItems, readValue_skipBlanks]

theorem readMembers_skipBlanks (fuel levels : Nat) (cs : List Char) :
    readMembers fuel levels (skipBlanks cs) = readMembers fuel levels cs := by
  cases fuel with
  | zero => rw [readMembers, readMembers]
  | succ fuel => rw [readMembers, readMembers, skipBlanks_skipBlanks]

theorem digitsValue_toDigits (n : Nat) : digitsValue (Nat.toDigits 10 n) = n := by
  have same : digitsValue (Nat.toDigits 10 n) = Nat.ofDigitChars 10 (Nat.toDigits 10 n) 0 := by
    simp only [digitsValue, Nat.ofDigitChars, Nat.mul_comm]
  rw [same, Nat.ofDigitChars_toDigits (by decide) (by decide)]

/-- Only zero is written with a zero in front. -/
theorem lead_toDigits (n : Nat) (lead : (Nat.toDigits 10 n).head? = some '0') :
    Nat.toDigits 10 n = ['0'] := by
  induction n using Nat.strongRecOn with
  | ind n ih =>
    by_cases small : n < 10
    · have zero : ∀ n < 10, n.digitChar = '0' → n = 0 := by decide
      rw [Nat.toDigits_eq_if (by decide), if_pos small] at lead
      rw [zero n small (Option.some.inj lead)]
      rfl
    · rw [Nat.toDigits_eq_if (by decide), if_neg small,
        List.head?_append_of_ne_nil _ Nat.toDigits_ne_nil] at lead
      have front := ih (n / 10) (by omega) lead
      have value := digitsValue_toDigits (n / 10)
      rw [front] at value
      have zero : 0 = n / 10 := value
      omega

/-- A digit starts nothing but a number. -/
theorem readValue_digit {c : Char} (digit : c.isDigit = true) (fuel levels : Nat) (cs : List Char) :
    readValue (fuel + 1) levels (c :: cs) = readNumber (c :: cs) := by
  have unlike {d : Char} (other : d.isDigit = false) : c ≠ d := by
    rintro rfl
    exact Bool.false_ne_true (other.symm.trans digit)
  have visible : isBlank c = false := by
    simp [isBlank, unlike (d := ' ') rfl, unlike (d := '\n') rfl, unlike (d := '\t') rfl,
      unlike (d := '\r') rfl]
  rw [readValue, skipBlanks_cons visible]
  split
  case h_7 => rfl
  all_goals
    rename_i same
    exact absurd (List.cons.inj same).1 (unlike rfl)

theorem reads_natural {levels n : Nat} (small : Fits n) : Reads levels (natural n) := by
  intro depth fuel rest enough ends
  have form : prettyChars depth (natural n) = Nat.toDigits 10 n := by
    rw [natural, prettyChars]
    exact String.toList_ofList
  have all : ∀ c ∈ Nat.toDigits 10 n, c.isDigit = true := fun c member =>
    Nat.isDigit_of_mem_toDigits (by decide) (by decide) member
  have number : readNumber (Nat.toDigits 10 n ++ rest) = .ok (natural n, rest) := by
    rw [readNumber_digits Nat.toDigits_ne_nil all (lead_toDigits n) ends
      (by rw [digitsValue_toDigits]; exact small), digitsValue_toDigits]
    rfl
  rw [form] at enough ⊢
  cases digits : Nat.toDigits 10 n with
  | nil => exact absurd digits Nat.toDigits_ne_nil
  | cons c cs =>
    rw [digits] at enough all number
    cases fuel with
    | zero => contradiction
    | succ fuel => exact (readValue_digit (all c List.mem_cons_self) ..).trans number

theorem endsNumber_of_newLine (depth : Nat) (cs : List Char) :
    EndsNumber (newLine depth ++ cs) := by
  rintro c ⟨⟩
  exact ⟨by decide, by decide⟩

theorem endsNumber_comma (cs : List Char) : EndsNumber (',' :: cs) := by
  rintro c ⟨⟩
  exact ⟨by decide, by decide⟩

/-- A value on a line of its own is read like one without blanks in front. -/
theorem Reads.newLine {levels : Nat} {value : Json} (reads : Reads levels value) (depth fuel : Nat)
    (rest : List Char) (enough : (prettyChars depth value).length ≤ fuel) (ends : EndsNumber rest) :
    readValue fuel levels (newLine depth ++ (prettyChars depth value ++ rest)) = .ok
      (value, rest) := by
  rw [← readValue_skipBlanks, skipBlanks_newLine, readValue_skipBlanks,
    reads depth fuel rest enough ends]

/-- Items on lines of their own are read up to the closing bracket. -/
theorem readItems_of_each {levels : Nat} {items : List Json} {item : Json} (depth outer fuel : Nat)
    (rest : List Char) (first : Reads levels item) (each : ∀ item ∈ items, Reads levels item)
    (enough : (prettyItems depth (item :: items)).length ≤ fuel) :
    readItems fuel levels (newLine depth ++ (prettyChars depth item ++ (prettyItems depth items
      ++ (newLine outer ++ ']' :: rest)))) = .ok (item :: items, rest) := by
  induction items generalizing item fuel with
  | nil =>
    cases fuel with
    | zero => contradiction
    | succ fuel =>
      have value := first.newLine depth fuel (newLine outer ++ ']' :: rest)
        (by simp [prettyItems] at enough; omega) (endsNumber_of_newLine _ _)
      rw [readItems, prettyItems, List.nil_append, value]
      simp only [bind, Except.bind, skipBlanks_newLine,
        skipBlanks_cons (show isBlank ']' = false from rfl)]
      rfl
  | cons next items ih =>
    cases fuel with
    | zero => contradiction
    | succ fuel =>
      have value := first.newLine depth fuel
        (prettyItems depth (next :: items) ++ (newLine outer ++ ']' :: rest))
        (by simp [prettyItems] at enough; omega) (endsNumber_comma _)
      have others := ih fuel (each next List.mem_cons_self)
        (fun item member => each item (List.mem_cons_of_mem _ member))
        (by simp [prettyItems] at enough ⊢; omega)
      rw [readItems, value]
      simp only [bind, Except.bind, prettyItems, List.cons_append, List.append_assoc,
        skipBlanks_cons (show isBlank ',' = false from rfl), others]
      rfl

/-- What a member comes to, depending on what follows it. -/
def readBehind (fuel levels : Nat) (member : String × Json) (rest : List Char) :
    Except Fault (List (String × Json) × List Char) :=
  match skipBlanks rest with
  | ',' :: rest =>
    (readMembers fuel levels rest).map fun (members, rest) => (member :: members, rest)
  | '\x7d' :: rest => .ok ([member], rest)
  | _ => .error .unexpected

theorem readMembers_line {levels : Nat} {value : Json} (reads : Reads levels value) (name : String)
    (depth fuel : Nat) (rest : List Char) (enough : (prettyChars depth value).length ≤ fuel)
    (ends : EndsNumber rest) :
    readMembers (fuel + 1) levels
        (newLine depth ++ (quoted name ++ ':' :: ' ' :: (prettyChars depth value ++ rest))) =
      readBehind fuel levels (name, value) rest := by
  have spaced : readValue fuel levels (' ' :: (prettyChars depth value ++ rest)) =
      .ok (value, rest) := by
    have blank : skipBlanks (' ' :: (prettyChars depth value ++ rest)) =
      skipBlanks (prettyChars depth value ++ rest) := rfl
    rw [← readValue_skipBlanks, blank, readValue_skipBlanks, reads depth fuel rest enough ends]
  rw [readMembers]
  simp only [bind, Except.bind, quoted, List.append_assoc, List.cons_append, List.nil_append,
    skipBlanks_newLine, skipBlanks_cons (show isBlank '"' = false from rfl),
    skipBlanks_cons (show isBlank ':' = false from rfl), readText_quoted, spaced]
  rw [String.ofList_toList]
  rfl

/-- Members on lines of their own are read up to the closing brace. -/
theorem readMembers_of_each {levels : Nat} {members : List (String × Json)} {name : String}
    {value : Json} (depth outer fuel : Nat) (rest : List Char) (first : Reads levels value)
    (each : ∀ member ∈ members, Reads levels member.2)
    (enough : (prettyMembers depth ((name, value) :: members)).length ≤ fuel) :
    readMembers fuel levels (newLine depth ++ (quoted name ++ ':' :: ' ' :: (prettyChars depth value
      ++ (prettyMembers depth members ++ (newLine outer ++ '\x7d' :: rest))))) =
      .ok ((name, value) :: members, rest) := by
  induction members generalizing name value fuel with
  | nil =>
    cases fuel with
    | zero => contradiction
    | succ fuel =>
      rw [prettyMembers, List.nil_append, readMembers_line first name depth fuel _
        (by simp [prettyMembers] at enough; omega) (endsNumber_of_newLine _ _)]
      simp only [readBehind, skipBlanks_newLine,
        skipBlanks_cons (show isBlank '\x7d' = false from rfl)]
  | cons next members ih =>
    obtain ⟨nextName, next⟩ := next
    cases fuel with
    | zero => contradiction
    | succ fuel =>
      have others := @ih nextName next fuel (each _ List.mem_cons_self)
        (fun member listed => each member (List.mem_cons_of_mem _ listed))
        (by simp [prettyMembers] at enough ⊢; omega)
      rw [readMembers_line first name depth fuel
        (prettyMembers depth ((nextName, next) :: members) ++ (newLine outer ++ '\x7d' :: rest))
        (by simp [prettyMembers] at enough; omega) (endsNumber_comma _), readBehind]
      simp only [prettyMembers, List.cons_append, List.append_assoc,
        skipBlanks_cons (show isBlank ',' = false from rfl), others]
      rfl

/-- No item starts with a closing bracket. -/
theorem readItems_closing (fuel levels : Nat) (rest : List Char) (result : List Json × List Char) :
    readItems fuel levels (']' :: rest) ≠ .ok result := by
  cases fuel with
  | zero => exact nofun
  | succ fuel => cases fuel <;> exact nofun

/-- No member starts with a closing brace. -/
theorem readMembers_closing (fuel levels : Nat) (rest : List Char)
    (result : List (String × Json) × List Char) :
    readMembers fuel levels ('\x7d' :: rest) ≠ .ok result := by
  cases fuel <;> exact nofun

theorem reads_null (levels : Nat) : Reads levels .null := by
  intro depth fuel rest enough _
  cases fuel with
  | zero => contradiction
  | succ fuel => rfl

theorem reads_boolean (levels : Nat) (value : Bool) : Reads levels (.boolean value) := by
  intro depth fuel rest enough _
  cases fuel with
  | zero => cases value <;> contradiction
  | succ fuel => cases value <;> rfl

theorem reads_text (levels : Nat) (value : String) : Reads levels (.text value) := by
  intro depth fuel rest enough _
  cases fuel with
  | zero => contradiction
  | succ fuel =>
    rw [prettyChars, quoted, List.append_assoc, readValue, List.cons_append, skipBlanks_cons rfl]
    simp only [List.singleton_append, readText_quoted, Except.map, String.ofList_toList]

theorem reads_array {levels : Nat} {items : List Json} (each : ∀ item ∈ items, Reads levels item) :
    Reads (levels + 1) (.array items) := by
  intro depth fuel rest enough _
  cases fuel with
  | zero => cases items <;> contradiction
  | succ fuel =>
    cases items with
    | nil => rfl
    | cons item items =>
      have inner := readItems_of_each (depth + 1) depth fuel rest (each item List.mem_cons_self)
        (fun item member => each item (List.mem_cons_of_mem _ member))
        (by simp [prettyItems, prettyChars, newLine] at enough ⊢; omega)
      rw [← readItems_skipBlanks] at inner
      simp only [readValue, prettyChars, List.cons_append, List.append_assoc, List.nil_append,
        skipBlanks_cons (show isBlank '[' = false from rfl)]
      split
      · rename_i closing
        rw [closing] at inner
        exact absurd inner (readItems_closing _ _ _ _)
      · rw [inner]
        rfl

theorem reads_object {levels : Nat} {members : List (String × Json)}
    (each : ∀ member ∈ members, Reads levels member.2) : Reads (levels + 1) (.object members) := by
  intro depth fuel rest enough _
  cases fuel with
  | zero => cases members <;> contradiction
  | succ fuel =>
    cases members with
    | nil => rfl
    | cons member members =>
      obtain ⟨name, value⟩ := member
      have inner := @readMembers_of_each levels members name value (depth + 1) depth fuel rest
        (each _ List.mem_cons_self)
        (fun member listed => each member (List.mem_cons_of_mem _ listed))
        (by simp [prettyMembers, prettyChars, newLine] at enough ⊢; omega)
      rw [← readMembers_skipBlanks] at inner
      simp only [readValue, prettyChars, List.cons_append, List.append_assoc, List.nil_append,
        skipBlanks_cons (show isBlank '\x7b' = false from rfl)]
      split
      · rename_i closing
        rw [closing] at inner
        exact absurd inner (readMembers_closing _ _ _ _)
      · rw [inner]
        rfl

theorem Storable.reads {levels : Nat} {value : Json} (storable : Storable levels value) :
    Reads levels value := by
  induction storable with
  | null => exact reads_null _
  | boolean value => exact reads_boolean _ value
  | natural small => exact reads_natural small
  | text value => exact reads_text _ value
  | array _ ih => exact reads_array ih
  | object _ ih => exact reads_object ih

/-- A value is read back from its indented form. -/
theorem read_pretty {value : Json} (storable : Storable 127 value) :
    read (value.pretty ++ "\n").toList = .ok value := by
  have form : (value.pretty ++ "\n").toList = prettyChars 0 value ++ ['\n'] := by simp [pretty]
  have whole := storable.reads 0 (2 * (prettyChars 0 value ++ ['\n']).length + 2) ['\n']
    (by rw [List.length_append]; omega) (endsNumber_of_newLine 0 [])
  rw [form, read, whole]
  rfl

end Phrasebook.Json
