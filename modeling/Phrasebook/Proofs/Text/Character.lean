import Phrasebook.Text.Case
import Phrasebook.Text.Space
import Mathlib.Data.Bool.AllAny

/-!
Characters of names. An identifier has letters, digits, the underscore and the dollar sign, of which
only the last is no part of words. No letter has an image under case with a slash or a dot in it, so
that a name stays one when its first character changes case.
-/

namespace Phrasebook.Text

theorem bounds_of_isAlpha {c : Char} (letter : c.isAlpha = true) :
    0x41 ≤ c.toNat ∧ c.toNat ≤ 0x7a := by
  have cases : (decide (0x41 ≤ c.val ∧ c.val ≤ 0x5a) ||
      (decide (0x61 ≤ c.val) && decide (c.val ≤ 0x7a))) = true := letter
  simp only [Bool.or_eq_true, Bool.and_eq_true, decide_eq_true_eq, UInt32.le_iff_toNat_le] at cases
  simp at cases
  omega

theorem bounds_of_isDigit {c : Char} (digit : c.isDigit = true) :
    0x30 ≤ c.toNat ∧ c.toNat ≤ 0x39 := by
  simp only [Char.isDigit, Bool.and_eq_true, decide_eq_true_eq, UInt32.le_iff_toNat_le] at digit
  exact digit

theorem isSpace_eq_false_of_isDigit {c : Char} (digit : c.isDigit = true) : isSpace c = false := by
  have bounds := bounds_of_isDigit digit
  rw [Bool.eq_false_iff]
  intro blank
  simp [isSpace, Character.Ranges.contains_iff, spaceRanges] at blank
  omega

theorem isWord_or_dollar {c : Char} (part : isIdentifierPart c = true) :
    isWord c = true ∨ c = '$' := by
  simp only [isIdentifierPart, Char.isAlphanum, Bool.or_eq_true, beq_iff_eq] at part
  rcases part with part | rfl
  · have low : c.toNat < 128 := by
      rcases part with (letter | digit) | rfl
      · have := (bounds_of_isAlpha letter).2
        omega
      · exact Nat.lt_of_le_of_lt (bounds_of_isDigit digit).2 (by decide)
      · decide
    rw [isWord, if_pos low]
    exact .inl (by simpa [Char.isAlphanum] using part)
  · exact .inr rfl

variable {name : String} {c : Char}

theorem toList_ne_nil_of_isIdentifier (identifier : isIdentifier name = true) :
    name.toList ≠ [] := by
  intro empty
  rw [isIdentifier, empty] at identifier
  cases identifier

theorem isIdentifierPart_of_mem (identifier : isIdentifier name = true) (member : c ∈ name.toList) :
    isIdentifierPart c = true := by
  unfold isIdentifier at identifier
  cases spelled : name.toList with
  | nil =>
    rw [spelled] at member
    cases member
  | cons d ds =>
    rw [spelled] at identifier member
    obtain ⟨start, parts⟩ := Bool.and_eq_true_iff.mp identifier
    rcases List.mem_cons.mp member with rfl | member
    · simp only [isIdentifierStart, isIdentifierPart, Char.isAlphanum, Bool.or_eq_true] at start ⊢
      exact start.imp_left fun start => start.imp_left .inl
    · exact List.all_eq_true.mp parts c member

theorem not_mem_of_isIdentifier (identifier : isIdentifier name = true)
    (other : isIdentifierPart c = false) : c ∉ name.toList :=
  fun member => Bool.eq_false_iff.mp other (isIdentifierPart_of_mem identifier member)

end Phrasebook.Text

namespace Phrasebook

namespace Character

/-- A table under which a character is the image of no other one. -/
def Spares (target : Char) (rows : List CaseRow) (sequences : List (Nat × List Nat)) : Prop :=
  (∀ row ∈ rows, (target.toNat : Int) < row.first + row.offset) ∧
    ∀ entry ∈ sequences, ∀ code ∈ entry.2, Char.ofNat code ≠ target

instance (target : Char) (rows : List CaseRow) (sequences : List (Nat × List Nat)) :
    Decidable (Spares target rows sequences) := inferInstanceAs (Decidable (_ ∧ _))

theorem Spares.not_mem_image {target : Char} {rows : List CaseRow}
    {sequences : List (Nat × List Nat)} (spares : Spares target rows sequences)
    (visible : target ≠ Char.ofNat 0) {c : Char} (other : c ≠ target) :
    target ∉ image rows sequences c := by
  intro listed
  unfold image at listed
  split at listed
  · rename_i row found
    have covers := List.find?_some found
    have least := spares.1 row (List.mem_of_find?_eq_some found)
    simp only [CaseRow.covers, Bool.and_eq_true, decide_eq_true_eq] at covers
    have same := List.mem_singleton.mp listed
    have large : target.toNat < row.image c.toNat := by
      unfold CaseRow.image
      omega
    by_cases valid : (row.image c.toNat).isValidChar
    · have code : (Char.ofNat (row.image c.toNat)).toNat = row.image c.toNat := by
        rw [Char.ofNat, dif_pos valid]
        rfl
      rw [same, code] at large
      exact Nat.lt_irrefl _ large
    · exact visible (by rw [same, Char.ofNat, dif_neg valid]; rfl)
  · split at listed
    · rename_i held codes found
      obtain ⟨code, member, same⟩ := List.mem_map.mp listed
      exact spares.2 _ (List.mem_of_find?_eq_some found) code member same
    · exact other (List.mem_singleton.mp listed).symm

theorem tables_spare : ∀ target ∈ ['/', '.'],
    Spares target upperRows upperSequences ∧ Spares target lowerRows lowerSequences :=
  List.all_iff_forall_prop.mp (by decide +kernel)

theorem slash_not_mem_upper {c : Char} (other : c ≠ '/') : '/' ∉ upper c :=
  (tables_spare '/' (by decide)).1.not_mem_image (by decide) other

theorem dot_not_mem_upper {c : Char} (other : c ≠ '.') : '.' ∉ upper c :=
  (tables_spare '.' (by decide)).1.not_mem_image (by decide) other

theorem slash_not_mem_lower {c : Char} (other : c ≠ '/') : '/' ∉ lower c :=
  (tables_spare '/' (by decide)).2.not_mem_image (by decide) other

theorem dot_not_mem_lower {c : Char} (other : c ≠ '.') : '.' ∉ lower c :=
  (tables_spare '.' (by decide)).2.not_mem_image (by decide) other

theorem dot_stays : upper '.' = ['.'] ∧ lower '.' = ['.'] := by decide

theorem image_ne_nil {rows : List CaseRow} {sequences : List (Nat × List Nat)}
    (filled : ∀ entry ∈ sequences, entry.2 ≠ []) (c : Char) : image rows sequences c ≠ [] := by
  unfold image
  split
  · exact List.cons_ne_nil _ _
  · split
    · rename_i held codes found
      exact fun empty => filled _ (List.mem_of_find?_eq_some found) (List.map_eq_nil_iff.mp empty)
    · exact List.cons_ne_nil _ _

theorem sequences_filled : ∀ entry ∈ upperSequences ++ lowerSequences, entry.2 ≠ [] := by decide

theorem upper_ne_nil (c : Char) : upper c ≠ [] :=
  image_ne_nil (fun entry listed => sequences_filled entry (List.mem_append_left _ listed)) c

theorem lower_ne_nil (c : Char) : lower c ≠ [] :=
  image_ne_nil (fun entry listed => sequences_filled entry (List.mem_append_right _ listed)) c

/-- Rows that lie above a character do not count for it. -/
theorem image_append {front back : List CaseRow} {sequences : List (Nat × List Nat)} {c : Char}
    (above : ∀ row ∈ back, c.toNat < row.first) (others : ∀ entry ∈ sequences, c.toNat < entry.1) :
    image (front ++ back) sequences c = image front [] c := by
  have noRow : back.find? (·.covers c.toNat) = none := by
    refine List.find?_eq_none.mpr fun row listed covers => ?_
    simp only [CaseRow.covers, Bool.and_eq_true, decide_eq_true_eq] at covers
    exact Nat.not_le_of_lt (above row listed) covers.1.1
  have noSequence : sequences.find? (·.1 == c.toNat) = none := by
    refine List.find?_eq_none.mpr fun entry listed same => ?_
    exact Nat.ne_of_gt (others entry listed) (beq_iff_eq.mp same)
  rw [image, image, List.find?_append, noRow, Option.or_none, noSequence]
  rfl

theorem lower_ascii {c : Char} (ascii : c.toNat < 128) : lower c = [c.toLower] := by
  obtain ⟨above, checked⟩ : (∀ row ∈ lowerRows.drop 1, 128 ≤ row.first) ∧
      ∀ code < 128, image (lowerRows.take 1) [] (Char.ofNat code) =
      [(Char.ofNat code).toLower] := by
    decide +kernel
  have others : ∀ entry ∈ lowerSequences, 128 ≤ entry.1 := by decide
  have same := checked c.toNat ascii
  rw [Char.ofNat_toNat] at same
  rw [lower, ← same, ← List.take_append_drop 1 lowerRows]
  exact image_append (fun row listed => Nat.lt_of_lt_of_le ascii (above row listed))
    fun entry listed => Nat.lt_of_lt_of_le ascii (others entry listed)

end Character

namespace Text

theorem slash_not_mem_capitalize {text : String} (noSlash : '/' ∉ text.toList) :
    '/' ∉ (capitalize text).toList := by
  unfold capitalize
  split
  · simp
  · rename_i c cs spelled
    rw [spelled, List.mem_cons, not_or] at noSlash
    rw [String.toList_ofList, List.mem_append, not_or]
    exact ⟨Character.slash_not_mem_upper (Ne.symm noSlash.1), noSlash.2⟩

theorem slash_not_mem_decapitalize {text : String} (noSlash : '/' ∉ text.toList) :
    '/' ∉ (decapitalize text).toList := by
  unfold decapitalize
  split
  · simp
  · rename_i c cs spelled
    rw [spelled, List.mem_cons, not_or] at noSlash
    rw [String.toList_ofList, List.mem_append, not_or]
    exact ⟨Character.slash_not_mem_lower (Ne.symm noSlash.1), noSlash.2⟩

variable {text : String}

theorem toList_lowercase (text : String) : (lowercase text).toList = lowerFrom [] text.toList := by
  rw [lowercase, String.toList_ofList]

/-- A character of a text in lower case is from one character of the text. -/
theorem mem_lowerFrom {before cs : List Char} {d : Char} (listed : d ∈ lowerFrom before cs) :
    d = 'ς' ∨ d = 'σ' ∨ ∃ c ∈ cs, d ∈ Character.lower c := by
  induction cs generalizing before with
  | nil => cases listed
  | cons c cs ih =>
    rw [lowerFrom] at listed
    rcases List.mem_append.mp listed with here | later
    · split at here
      · rw [List.mem_singleton] at here
        split at here
        · exact .inl here
        · exact .inr (.inl here)
      · exact .inr (.inr ⟨c, List.mem_cons_self, here⟩)
    · refine (ih later).imp_right (Or.imp_right ?_)
      exact fun ⟨other, member, image⟩ => ⟨other, List.mem_cons_of_mem _ member, image⟩

theorem slash_not_mem_lowercase (noSlash : '/' ∉ text.toList) : '/' ∉ (lowercase text).toList := by
  rw [toList_lowercase]
  intro slash
  rcases mem_lowerFrom slash with final | sigma | ⟨c, member, image⟩
  · cases final
  · cases sigma
  · exact Character.slash_not_mem_lower (fun same => noSlash (same ▸ member)) image

/-- Only dots are dots in lower case. -/
theorem lowerFrom_of_dots {before cs : List Char} (dots : ∀ d ∈ lowerFrom before cs, d = '.') :
    lowerFrom before cs = cs := by
  induction cs generalizing before with
  | nil => rfl
  | cons c cs ih =>
    rw [lowerFrom] at dots ⊢
    rw [ih fun d listed => dots d (List.mem_append_right _ listed)]
    have here : ∀ d ∈ (if c = 'Σ' then _ else Character.lower c), d = '.' := fun d listed =>
      dots d (List.mem_append_left _ listed)
    split at here
    · exact absurd (here _ (List.mem_singleton_self _)) (by split <;> decide)
    · obtain ⟨d, rest, image⟩ := List.exists_cons_of_ne_nil (Character.lower_ne_nil c)
      have dot : d = '.' := here d (by rw [image]; exact List.mem_cons_self)
      have same : c = '.' := Decidable.byContradiction fun other =>
        Character.dot_not_mem_lower other (by rw [image, dot]; exact List.mem_cons_self)
      subst c
      rw [if_neg (by decide), Character.dot_stays.2]
      rfl

theorem eq_of_lowercase_dots {dots : String} (all : ∀ c ∈ dots.toList, c = '.')
    (same : lowercase text = dots) : text = dots := by
  have chars := toList_lowercase text
  rw [same] at chars
  rw [← same, lowercase, lowerFrom_of_dots (chars ▸ all), String.ofList_toList]

theorem lowercase_ascii (ascii : ∀ c ∈ text.toList, c.toNat < 128) :
    lowercase text = lowercaseAscii text := by
  have chars (before cs : List Char) (ascii : ∀ c ∈ cs, c.toNat < 128) :
      lowerFrom before cs = cs.map Char.toLower := by
    induction cs generalizing before with
    | nil => rfl
    | cons c cs ih =>
      obtain ⟨first, rest⟩ := List.forall_mem_cons.mp ascii
      have other : c ≠ 'Σ' := by
        rintro rfl
        exact absurd first (by decide)
      rw [lowerFrom, if_neg other, Character.lower_ascii first, ih _ rest]
      rfl
  apply String.toList_inj.mp
  rw [toList_lowercase, chars [] _ ascii, lowercaseAscii, String.toList_map]

end Text
end Phrasebook
