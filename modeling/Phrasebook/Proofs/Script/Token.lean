import Phrasebook.Proofs.Text.Character
import Phrasebook.Proofs.Text.Slice
import Phrasebook.Script.Lexeme
import Phrasebook.Text.Quoted

/-!
Tokens where the text before and behind them is known: a word ends where no part of a word follows,
and a quoted text is read back as itself.
-/

namespace Phrasebook.Script

open Text

/-- A word as it is spelled without escapes. -/
inductive IsWord : List Char → Prop
  | intro {c : Char} {cs : List Char} (start : isWordStart c = true)
    (parts : ∀ d ∈ c :: cs, isWordPart d = true) : IsWord (c :: cs)

/-- What may follow a word: nothing that would go on with it. -/
def EndsWord : List Char → Prop
  | [] => True
  | c :: _ => isWordPart c = false ∧ c ≠ '\\'

theorem Cursor.takeWhile_append {kind : Char → Bool} {run rest : List Char}
    (all : ∀ c ∈ run, kind c = true) (stops : ∀ c ∈ rest.head?, kind c = false) (p : Nat) :
    Cursor.takeWhile kind (run ++ rest) p = (run, ⟨rest, p + byteLength run⟩) := by
  induction run generalizing p with
  | nil =>
    cases rest with
    | nil => rfl
    | cons c rest =>
      have stop := stops c rfl
      rw [List.nil_append, takeWhile, stop]
      rfl
  | cons c run ih =>
    have first := all c List.mem_cons_self
    rw [List.cons_append, takeWhile, if_pos first, ih fun d member =>
      all d (List.mem_cons_of_mem _ member)]
    simp only [byteLength, Nat.add_assoc]

theorem EndsWord.head {rest : List Char} (ends : EndsWord rest) :
    ∀ c ∈ rest.head?, isWordPart c = false := by
  intro c member
  cases rest with
  | nil => cases member
  | cons d rest =>
    obtain rfl := Option.some.inj member
    exact ends.1

theorem readWordParts_append {word rest : List Char} (parts : ∀ c ∈ word, isWordPart c = true)
    (ends : EndsWord rest) (fuel p : Nat) :
    readWordParts (fuel + 1) (word ++ rest) p = .ok (false, word, ⟨rest, p + byteLength word⟩) := by
  rw [readWordParts, Cursor.takeWhile_append parts ends.head]
  split
  · rename_i run escape q same
    obtain ⟨-, same⟩ := Prod.mk.inj same
    obtain ⟨rfl, -⟩ := Cursor.mk.inj same
    exact (ends.2 rfl).elim
  · rename_i same
    obtain ⟨rfl, rfl⟩ := Prod.mk.inj same
    rfl

theorem not_isDigit_of_isWordStart {c : Char} (start : isWordStart c = true) :
    c.isDigit = false := by
  by_contra digit
  have low := (bounds_of_isDigit (by simpa using digit)).2
  simp only [isWordStart, Bool.or_eq_true, Bool.and_eq_true, decide_eq_true_eq, beq_iff_eq] at start
  rcases start with ((letter | rfl) | rfl) | ⟨high, -⟩
  · have := bounds_of_isAlpha letter
    omega
  · simp at digit
  · simp at digit
  · omega

/-- A character of a kind is none of these that are not of the kind. -/
theorem ne_of_none {kind : Char → Bool} {cs : List Char} (none : (cs.all fun d => !kind d) = true)
    {c : Char} (isKind : kind c = true) : ∀ d ∈ cs, c ≠ d := by
  rintro d member rfl
  have other := List.all_eq_true.mp none c member
  rw [isKind] at other
  cases other

/-- A word is read up to what ends it. -/
theorem readToken_word {word rest : List Char} (isWord : IsWord word)
    (ends : EndsWord rest) (p : Nat) : readToken ⟨word ++ rest, p⟩ =
      (.word (String.ofList word) false, ⟨rest, p + byteLength word⟩) := by
  obtain ⟨start, parts⟩ := isWord
  rename_i c cs
  have plain : ∀ d ∈ ['"', '\'', '.', '\\'], c ≠ d := ne_of_none (by decide) start
  have digit := not_isDigit_of_isWordStart start
  have starts : startsWord (c :: (cs ++ rest)) = true := by
    unfold startsWord
    split
    · rename_i same
      exact (plain '\\' (by decide) (List.cons.inj same).1).elim
    · rename_i same
      rw [← (List.cons.inj same).1]
      exact start
    · rename_i same
      cases same
  have quote : (c == '"' || c == '\'') = false := by simp [plain]
  have number :
      (c.isDigit || (c == '.' && ((cs ++ rest).head?.map Char.isDigit).getD false)) = false := by
    simp [plain, digit]
  have read := readWordParts_append parts ends (c :: (cs ++ rest)).length p
  rw [List.cons_append] at read ⊢
  simp only [readToken]
  rw [quote, number, starts]
  simp only [Bool.false_eq_true, if_false, if_true, wordToken]
  rw [read]

/-- Blanks are passed over. -/
theorem skipGap_blanks {blanks : List Char} (blank : ∀ c ∈ blanks, isBlank c = true)
    (comments : List Span) (cs : List Char) (p : Nat) :
    skipGap .blank true comments (blanks ++ cs) p = skipGap .blank true comments cs
      (p + byteLength blanks) := by
  induction blanks generalizing p with
  | nil => rfl
  | cons c blanks ih =>
    obtain ⟨here, later⟩ := List.forall_mem_cons.mp blank
    have apart {d : Char} (mark : isBlank d = false) : c ≠ d := by
      rintro rfl
      rw [mark] at here
      cases here
    rw [List.cons_append, skipGap]
    · rw [if_pos here, Bool.true_or, ih later, byteLength, Nat.add_assoc]
    · rintro _ rfl
      exact (apart (d := '/') (by decide) rfl).elim
    · rintro _ rfl
      exact (apart (d := '/') (by decide) rfl).elim
    · rintro _ rfl
      exact (apart (d := '<') (by decide) rfl).elim
    · rintro _ _ rfl
      exact (apart (d := '-') (by decide) rfl).elim

theorem not_isBlank_of_isIdentifierStart {c : Char} (start : isIdentifierStart c = true) :
    isBlank c = false := by
  by_contra blank
  have blank : isBlank c = true := by simpa using blank
  simp only [isIdentifierStart, Bool.or_eq_true, beq_iff_eq] at start
  simp only [isBlank, isSpace, Bool.or_eq_true, Character.Ranges.contains_iff, beq_iff_eq] at blank
  rcases blank with ⟨r, listed, low, high⟩ | rfl
  · have bounds : ∀ r ∈ spaceRanges, r.2 ≤ 0x20 ∨ 0x80 ≤ r.1 := by decide
    have bound := bounds r listed
    have letter : 0x24 ≤ c.toNat ∧ c.toNat < 0x80 := by
      rcases start with (letter | rfl) | rfl
      · have := bounds_of_isAlpha letter
        omega
      · decide
      · decide
    omega
  · revert start
    decide

/-- No gap begins where a plain identifier does. -/
theorem gapAt_identifier {text : String} (identifier : isIdentifier text = true)
    (rest : List Char) (p : Nat) (first : Bool) :
    gapAt ⟨text.toList ++ rest, p⟩ first = ⟨⟨text.toList ++ rest, p⟩, first, []⟩ := by
  unfold isIdentifier at identifier
  cases spelled : text.toList with
  | nil =>
    rw [spelled] at identifier
    cases identifier
  | cons c cs =>
    rw [spelled] at identifier
    obtain ⟨start, -⟩ := Bool.and_eq_true_iff.mp identifier
    have plain : ∀ d ∈ ['/', '<', '-'], c ≠ d := ne_of_none (by decide) start
    rw [gapAt, List.cons_append, skipGap]
    · rw [not_isBlank_of_isIdentifierStart start]
      rfl
    · rintro _ rfl
      exact (plain '/' (by decide) rfl).elim
    · rintro _ rfl
      exact (plain '/' (by decide) rfl).elim
    · rintro _ rfl
      exact (plain '<' (by decide) rfl).elim
    · rintro _ _ rfl
      exact (plain '-' (by decide) rfl).elim

theorem isWord_of_isIdentifier {text : String} (identifier : isIdentifier text = true) :
    IsWord text.toList := by
  have each (d : Char) (member : d ∈ text.toList) : isWordPart d = true := by
    have part := isIdentifierPart_of_mem identifier member
    rw [isWordPart, show (d.isAlphanum || d == '_' || d == '$') = true from part]
    rfl
  unfold isIdentifier at identifier
  cases spelled : text.toList with
  | nil =>
    rw [spelled] at identifier
    cases identifier
  | cons c cs =>
    rw [spelled] at identifier each
    obtain ⟨start, -⟩ := Bool.and_eq_true_iff.mp identifier
    have wordStart : isWordStart c = true := by
      rw [isWordStart, show (c.isAlpha || c == '_' || c == '$') = true from start]
      rfl
    exact .intro wordStart each

theorem nextLexeme_identifier {text : String} (identifier : isIdentifier text = true)
    {rest : List Char} (ends : EndsWord rest) (p : Nat) (first : Bool) :
    nextLexeme ⟨text.toList ++ rest, p⟩ first =
      (⟨.word text false, ⟨text.toList ++ rest, p⟩, ⟨rest, p + byteLength text.toList⟩, first⟩,
        []) := by
  rw [nextLexeme, gapAt_identifier identifier]
  simp only
  rw [readToken_word (isWord_of_isIdentifier identifier) ends, String.ofList_toList]

/-- The code points of a text have no half of a surrogate pair among them. -/
theorem textOfCodes?_toNat (cs : List Char) : textOfCodes? (cs.map Char.toNat) = some cs := by
  have valid (c : Char) : c.toNat < 0xd800 ∨ 0xdfff < c.toNat ∧ c.toNat < 0x110000 := c.valid
  have high (c : Char) : isHighHalf c.toNat = false := by
    have := valid c
    simp only [isHighHalf, Bool.and_eq_false_iff, decide_eq_false_iff_not]
    omega
  have low (c : Char) : isLowHalf c.toNat = false := by
    have := valid c
    simp only [isLowHalf, Bool.and_eq_false_iff, decide_eq_false_iff_not]
    omega
  induction cs with
  | nil => rfl
  | cons c cs ih =>
    cases cs with
    | nil => simp [textOfCodes?, high, low]
    | cons d cs =>
      rw [List.map_cons] at ih ⊢
      rw [List.map_cons, textOfCodes?, high c, low c]
      simp only [Bool.false_and, Bool.false_eq_true, if_false, Bool.or_self, ih]
      simp

/-- Characters are read back from these forms between these quotes. -/
structure ReadsForms (quote : Char) (form : Char → List Char) : Prop where
  filled : ∀ c, form c ≠ []
  code : ∀ c rest fuel p codes, readStringCodes quote (fuel + 1) (form c ++ rest) p codes =
    readStringCodes quote fuel rest (p + byteLength (form c)) (c.toNat :: codes)

section ReadsForms

variable {quote : Char} {form : Char → List Char} (forms : ReadsForms quote form)

include forms

theorem ReadsForms.length_le (cs : List Char) : cs.length ≤ (cs.flatMap form).length := by
  induction cs with
  | nil => exact Nat.le_refl 0
  | cons c cs ih =>
    have one := List.length_pos_iff.mpr (forms.filled c)
    rw [List.flatMap_cons, List.length_cons, List.length_append]
    omega

theorem ReadsForms.codes {cs rest : List Char} {fuel : Nat} (enough : cs.length < fuel) (p : Nat)
    (codes : List Nat) : readStringCodes quote fuel (cs.flatMap form ++ quote :: rest) p codes =
      .ok (codes.reverse ++ cs.map Char.toNat, ⟨rest, p + byteLength (cs.flatMap form) + 1⟩) := by
  induction cs generalizing fuel p codes with
  | nil =>
    obtain ⟨fuel, rfl⟩ := Nat.exists_eq_add_one.mpr enough
    simp [readStringCodes, byteLength]
  | cons c cs ih =>
    obtain ⟨fuel, rfl⟩ := Nat.exists_eq_add_one.mpr (Nat.zero_lt_of_lt enough)
    have fewer : cs.length < fuel := by simpa using enough
    rw [List.flatMap_cons, List.append_assoc, forms.code, ih fewer]
    simp [byteLength_append, Nat.add_assoc]

/-- A text is read back from its quoted form. -/
theorem ReadsForms.readString (text : String) (rest : List Char) (p : Nat) :
    readString quote (text.toList.flatMap form ++ quote :: rest) p =
      .ok (some text, ⟨rest, p + byteLength (text.toList.flatMap form) + 1⟩) := by
  have enough : text.toList.length < (text.toList.flatMap form ++ quote :: rest).length + 1 := by
    have := forms.length_le text.toList
    simp only [List.length_append, List.length_cons]
    omega
  rw [Script.readString, forms.codes enough p []]
  simp [textOfCodes?_toNat]

theorem ReadsForms.readToken (isQuote : quote = '"' ∨ quote = '\'') (text : String)
    (rest : List Char) (p : Nat) :
    readToken ⟨quote :: (text.toList.flatMap form ++ quote :: rest), p⟩ =
      (.string (some text), ⟨rest, p + 1 + byteLength (text.toList.flatMap form) + 1⟩) := by
  rw [Script.readToken]
  simp only
  rw [if_pos (by rcases isQuote with rfl | rfl <;> rfl), forms.readString]

theorem ReadsForms.nextLexeme (isQuote : quote = '"' ∨ quote = '\'') (text : String)
    (rest : List Char) (p : Nat) (first : Bool) :
    nextLexeme ⟨quote :: (text.toList.flatMap form ++ quote :: rest), p⟩ first =
      (⟨.string (some text), ⟨quote :: (text.toList.flatMap form ++ quote :: rest), p⟩,
        ⟨rest, p + 1 + byteLength (text.toList.flatMap form) + 1⟩, first⟩, []) := by
  have gap : gapAt ⟨quote :: (text.toList.flatMap form ++ quote :: rest), p⟩ first =
      ⟨⟨quote :: (text.toList.flatMap form ++ quote :: rest), p⟩, first, []⟩ := by
    rcases isQuote with rfl | rfl <;> cases first <;> rfl
  rw [Script.nextLexeme, gap]
  simp only
  rw [forms.readToken isQuote]

end ReadsForms

/-- Between single quotes a character is read back with an escape or without. -/
theorem readsForms_quoteChar : ReadsForms '\'' quoteChar where
  filled c := by
    unfold quoteChar
    split <;> exact List.cons_ne_nil _ _
  code c rest fuel p codes := by
    unfold quoteChar
    split
    · rfl
    · rfl
    · rfl
    · rfl
    · rename_i backslash quote feed carriage
      have quoted : (c == '\'') = false := beq_eq_false_iff_ne.mpr quote
      have escaped : (c == '\\') = false := beq_eq_false_iff_ne.mpr backslash
      have lineEnd : (c == '\n' || c == '\r') = false := by
        rw [beq_eq_false_iff_ne.mpr feed, beq_eq_false_iff_ne.mpr carriage]
        rfl
      rw [List.singleton_append, readStringCodes, quoted, escaped, lineEnd]
      rfl

end Phrasebook.Script
