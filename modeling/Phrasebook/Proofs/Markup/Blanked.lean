import Phrasebook.Proofs.Markup.Comments
import Mathlib.Data.Bool.AllAny

/-!
Blanked markup. Where its comments lie is said by their delimiters alone: each begins at the first
opening delimiter behind the one before and goes to the first closing one behind that, or to the
end. Blanking changes just the bytes of comments, and of these all but line feeds into spaces; what
comes out has no comment, so that blanking it again changes nothing, and positions between
characters stay positions between characters.
-/

namespace Phrasebook.Markup

open Text

variable {cs ds w front back : List Char} {m : List (Char × Bool)} {inside : Bool} {p : Nat}
  {spans : List Span}

def opening : List Char := ['<', '!', '-', '-']

def closing : List Char := ['-', '-', '>']

/-- A delimiter behind a text begins at no place before that. -/
def ComesFirst (delimiter front : List Char) : Prop := ¬ delimiter <:+: front ++ delimiter.dropLast

/-- The spans of the comments of a text that begins at a position. -/
inductive Commented : List Char → Nat → List Span → Prop
  | none {cs : List Char} {p : Nat} (unopened : ¬ opening <:+: cs) : Commented cs p []
  | closed {front body rest : List Char} {p : Nat} {spans : List Span}
      (opens : ComesFirst opening front) (closes : ComesFirst closing body)
      (more : Commented rest (p + byteLength front + (4 + byteLength body + 3)) spans) :
      Commented (front ++ opening ++ body ++ closing ++ rest) p
        (⟨p + byteLength front, p + byteLength front + (4 + byteLength body + 3)⟩ :: spans)
  | unclosed {front body : List Char} {p : Nat} (opens : ComesFirst opening front)
      (endless : ¬ closing <:+: body) :
      Commented (front ++ opening ++ body) p
      [⟨p + byteLength front, p + byteLength front + (4 + byteLength body)⟩]

theorem comesFirst_nil {delimiter : List Char} (filled : delimiter ≠ []) :
    ComesFirst delimiter [] := by
  intro found
  have length := found.length_le
  have pos := List.length_pos_iff.mpr filled
  rw [List.nil_append, List.length_dropLast] at length
  omega

/-- A delimiter that does not begin at a character begins behind it. -/
theorem ComesFirst.cons {delimiter front : List Char}
    (comes : ComesFirst delimiter front) (c : Char) (rest : List Char)
    (other : ¬ delimiter <+: c :: (front ++ delimiter ++ rest)) :
    ComesFirst delimiter (c :: front) := by
  intro found
  rcases List.infix_cons_iff.mp found with here | later
  · refine other (here.trans ?_)
    rw [List.prefix_cons_inj, List.append_assoc]
    exact (List.prefix_append_right_inj front).mpr
      ((List.dropLast_prefix delimiter).trans (List.prefix_append _ _))
  · exact comes later

theorem Commented.cons {c : Char} (commented : Commented cs (p + c.utf8Size) spans)
    (other : ¬ opening <+: c :: cs) : Commented (c :: cs) p spans := by
  have behind (front : List Char) : p + c.utf8Size + byteLength front =
      p + byteLength (c :: front) :=
    Nat.add_assoc _ _ _
  generalize start : p + c.utf8Size = q at commented
  cases commented with
  | none unopened => exact .none fun found => (List.infix_cons_iff.mp found).elim other unopened
  | @closed front body rest _ spans opens closes more =>
    subst start
    rw [behind front] at more ⊢
    have first := opens.cons c (body ++ closing ++ rest) (by simpa using other)
    simpa using Commented.closed first closes more
  | @unclosed front body _ opens endless =>
    subst start
    rw [behind front]
    have first := opens.cons c body (by simpa using other)
    simpa using Commented.unclosed first endless

/-- What a comment that has begun somewhere comes to: it is closed, or it goes to the end. -/
inductive Continued (start : Nat) : List Char → Nat → List Span → Prop
  | closed {body rest : List Char} {p : Nat} {spans : List Span} (closes : ComesFirst closing body)
      (more : Commented rest (p + (byteLength body + 3)) spans) :
      Continued start (body ++ closing ++ rest) p (⟨start, p + (byteLength body + 3)⟩ :: spans)
  | unclosed {body : List Char} {p : Nat} (endless : ¬ closing <:+: body) :
      Continued start body p [⟨start, p + byteLength body⟩]

theorem Continued.cons {start : Nat} {c : Char}
    (continued : Continued start cs (p + c.utf8Size) spans) (other : ¬ closing <+: c :: cs) :
    Continued start (c :: cs) p spans := by
  have behind (body : List Char) (n : Nat) :
      p + c.utf8Size + (byteLength body + n) = p + (byteLength (c :: body) + n) := by
    rw [byteLength]
    omega
  generalize begins : p + c.utf8Size = q at continued
  cases continued with
  | @closed body rest _ spans closes more =>
    subst begins
    rw [behind body] at more ⊢
    have first := closes.cons c rest (by simpa using other)
    exact Continued.closed first more
  | @unclosed body _ endless =>
    subst begins
    have whole := behind cs 0
    rw [Nat.add_zero, Nat.add_zero] at whole
    rw [whole]
    exact .unclosed fun found => (List.infix_cons_iff.mp found).elim other endless

/-- The comments of what is left of a text, behind a comment that has begun or outside of all. -/
def CommentedBehind : Option Nat → List Char → Nat → List Span → Prop
  | none => Commented
  | some start => Continued start

theorem commentedBehind_commentsFrom (begun : Option Nat) (cs : List Char) (p : Nat) :
    CommentedBehind begun cs p (commentsFrom begun cs p) := by
  fun_induction commentsFrom begun cs p with
  | case1 p start => exact .unclosed (by simp [closing])
  | case2 p => exact .none (by simp [opening])
  | case3 cs p ih =>
    generalize commentsFrom (some p) cs (p + 4) = spans at ih ⊢
    cases ih with
    | @closed body rest _ spans closes more =>
      have stop : p + 4 + (byteLength body + 3) = p + byteLength [] +
          (4 + byteLength body + 3) := by
        rw [byteLength]
        omega
      rw [stop] at more ⊢
      exact Commented.closed (comesFirst_nil (by decide)) closes more
    | unclosed endless =>
      rw [Nat.add_assoc]
      exact Commented.unclosed (comesFirst_nil (by decide)) endless
  | case4 start cs p ih => exact Continued.closed (comesFirst_nil (by decide)) ih
  | case5 begun c cs p opens closes ih =>
    cases begun with
    | none =>
      refine Commented.cons ih ?_
      rintro ⟨rest, same⟩
      obtain ⟨rfl, rfl⟩ := List.cons.inj same
      exact opens rest rfl rfl rfl
    | some start =>
      refine Continued.cons ih ?_
      rintro ⟨rest, same⟩
      obtain ⟨rfl, rfl⟩ := List.cons.inj same
      exact closes start rest rfl rfl rfl

theorem commented_comments (cs : List Char) : Commented cs 0 (comments cs) :=
  commentedBehind_commentsFrom none cs 0

/-- A text in UTF-8. -/
def utf8 (cs : List Char) : List UInt8 := cs.flatMap String.utf8EncodeChar

/-- The byte of a line feed. -/
def feedByte : UInt8 := 10

/-- What becomes of a byte; the flag tells whether it is part of a comment. -/
def blankByte (b : UInt8) (inside : Bool) : UInt8 := if inside && b != feedByte then 32 else b

/-- Only a line feed has the byte of one. -/
theorem feedByte_not_mem {c : Char} (other : c ≠ '\n') : feedByte ∉ String.utf8EncodeChar c := by
  have code : c.val.toNat ≠ 10 := fun same => other (Char.ext (UInt32.toNat_inj.mp same))
  have feed : feedByte.toNat = 10 := rfl
  unfold String.utf8EncodeChar
  simp only
  split_ifs <;> simp only [List.mem_cons, List.not_mem_nil, or_false, not_or, ← UInt8.toNat_inj,
    UInt8.toNat_ofNat', feed] <;> omega

theorem utf8_append (cs ds : List Char) : utf8 (cs ++ ds) = utf8 cs ++ utf8 ds :=
  List.flatMap_append

theorem utf8_spaces (n : Nat) : utf8 (spaces n) = List.replicate n 32 := by
  induction n with
  | zero => rfl
  | succ n ih =>
    rw [spaces, List.replicate_succ, utf8, List.flatMap_cons, ← utf8, ← spaces, ih]; rfl

/-- Blanking replaces a character byte by byte. -/
theorem utf8_shown (x : Char × Bool) :
    utf8 (shown x) = (String.utf8EncodeChar x.1).map (blankByte · x.2) := by
  obtain ⟨c, inside⟩ := x
  cases inside with
  | false => simp [shown, utf8, blankByte]
  | true =>
    simp only [shown, blank]
    split
    · rename_i feed
      subst feed
      decide
    · rename_i other
      have blanks : ∀ b ∈ String.utf8EncodeChar c, blankByte b true = 32 := by
        intro b member
        have unlike : b ≠ feedByte := fun same => feedByte_not_mem other (same ▸ member)
        simp [blankByte, unlike]
      rw [utf8_spaces, List.map_congr_left blanks, List.map_const', String.length_utf8EncodeChar]

theorem length_utf8 (cs : List Char) : (utf8 cs).length = byteLength cs := by
  induction cs with
  | nil => rfl
  | cons c cs ih =>
    rw [utf8, List.flatMap_cons, List.length_append, ← utf8, ih, String.length_utf8EncodeChar]; rfl

theorem utf8_flatMap_shown (m : List (Char × Bool)) :
    utf8 (m.flatMap shown) = List.zipWith blankByte (utf8 (plainChars m)) (byteMarks m) := by
  induction m with
  | nil => rfl
  | cons x m ih =>
    have chars : utf8 (plainChars (x :: m)) = String.utf8EncodeChar x.1 ++
        utf8 (plainChars m) := rfl
    have marks : byteMarks (x :: m) = List.replicate x.1.utf8Size x.2 ++ byteMarks m := rfl
    have sizes : (String.utf8EncodeChar x.1).length = (List.replicate x.1.utf8Size x.2).length := by
      rw [String.length_utf8EncodeChar, List.length_replicate]
    rw [List.flatMap_cons, utf8_append, ih, utf8_shown, chars, marks, List.zipWith_append sizes,
      ← String.length_utf8EncodeChar, ← List.map_const', List.zipWith_map_right, List.zipWith_self]

/-- A byte is part of a comment exactly if a comment meets it. -/
theorem touched_byte_iff (m : List (Char × Bool)) (p i : Nat) :
    Touched m p ⟨p + i, p + i + 1⟩ ↔ (byteMarks m)[i]? = some true := by
  induction m generalizing p i with
  | nil => simp [Touched, byteMarks]
  | cons x m ih =>
    have marks : byteMarks (x :: m) = List.replicate x.1.utf8Size x.2 ++ byteMarks m := rfl
    have here : (Span.mk p (p + x.1.utf8Size)).overlaps ⟨p + i, p + i + 1⟩ = true ↔
        i < x.1.utf8Size := by
      rw [overlaps_iff]
      constructor
      · exact fun met => Nat.lt_of_add_lt_add_left met.2
      · exact fun within => ⟨by simp only; omega, Nat.add_lt_add_left within p⟩
    rw [Touched, here, marks]
    by_cases within : i < x.1.utf8Size
    · have behind : ¬ Touched m (p + x.1.utf8Size) ⟨p + i, p + i + 1⟩ :=
        not_touched_behind (by simp only; omega)
      rw [List.getElem?_append_left (by simpa using within)]
      simp [within, behind]
    · obtain ⟨j, rfl⟩ := Nat.exists_eq_add_of_le (Nat.le_of_not_lt within)
      rw [List.getElem?_append_right (by simp), List.length_replicate, Nat.add_sub_cancel_left,
        ← ih (p + x.1.utf8Size) j, ← Nat.add_assoc]
      exact or_iff_right (not_and_of_not_right _ within)

/-- Whether the byte at a position is part of one of these spans. -/
def covered (spans : List Span) (position : Nat) : Bool :=
  spans.any fun span => span.start ≤ position && position < span.stop

theorem covered_comments (cs : List Char) (i : Nat) :
    covered (comments cs) i = true ↔ (byteMarks (marked false cs))[i]? = some true := by
  have met := commentsFrom_overlaps_iff none cs 0 ⟨i, i + 1⟩ (Nat.lt_succ_self i) (by simp)
  have byte := touched_byte_iff (marked false cs) 0 i
  rw [Nat.zero_add] at byte
  rw [Option.isSome_none, byte] at met
  simp only [reduceCtorEq, false_and, exists_false, false_or] at met
  rw [← met, covered, List.any_eq_true]
  refine exists_congr fun span => and_congr_right fun _ => ?_
  rw [overlaps_iff, Bool.and_eq_true, decide_eq_true_eq, decide_eq_true_eq, Nat.lt_succ_iff]

/-- Of the bytes of markup just those of comments are blanked. -/
theorem utf8_blankComments (cs : List Char) (i : Nat) :
    (utf8 (blankComments cs))[i]? = (utf8 cs)[i]?.map (blankByte · (covered (comments cs) i)) := by
  have size : (byteMarks (marked false cs)).length = (utf8 cs).length := by
    rw [length_byteMarks, ← plainChars, plainChars_marked, length_utf8]
  rw [blankComments, blankFrom_eq_flatMap_shown, utf8_flatMap_shown, plainChars_marked,
    List.getElem?_zipWith]
  by_cases within : i < (utf8 cs).length
  · have fits : i < (byteMarks (marked false cs)).length := size ▸ within
    have mark : covered (comments cs) i = (byteMarks (marked false cs))[i] := by
      rw [Bool.eq_iff_iff, covered_comments, List.getElem?_eq_getElem fits, Option.some.injEq]
    rw [List.getElem?_eq_getElem within, List.getElem?_eq_getElem fits, mark]
    rfl
  · rw [List.getElem?_eq_none (Nat.le_of_not_lt within)]
    rfl

/-- Line feeds stay where they are, and no byte becomes one. -/
theorem blankByte_eq_feedByte_iff (b : UInt8) (inside : Bool) :
    blankByte b inside = feedByte ↔ b = feedByte := by
  unfold blankByte
  split
  · rename_i blanked
    rw [Bool.and_eq_true, bne_iff_ne] at blanked
    exact ⟨fun same => absurd same (by decide), fun same => absurd same blanked.2⟩
  · rfl

/-- Signs that show no blanks stood together before. -/
theorem prefix_plainChars (visible : ∀ c ∈ w, isBlank c = false) (found : w <+: m.flatMap shown) :
    w <+: plainChars m := by
  induction m generalizing w with
  | nil => exact found
  | cons x m ih =>
    obtain ⟨c, inside⟩ := x
    cases w with
    | nil => exact List.nil_prefix
    | cons d w =>
      obtain ⟨sign, visible⟩ := List.forall_mem_cons.mp visible
      cases inside with
      | false =>
        obtain ⟨rfl, rest⟩ := List.cons_prefix_cons.mp found
        exact List.cons_prefix_cons.mpr ⟨rfl, ih visible rest⟩
      | true =>
        have blanks := shown_of_comment c
        cases form : shown (c, true) with
        | nil => exact absurd form (shown_ne_nil _)
        | cons e others =>
          rw [List.flatMap_cons, form] at found
          obtain ⟨rfl, -⟩ := List.cons_prefix_cons.mp found
          rw [blanks d (by rw [form]; exact List.mem_cons_self)] at sign
          cases sign

/-- What begins with a visible sign begins behind blanks. -/
theorem infix_behind_blanks {d : Char} (blanks : ∀ c ∈ front, isBlank c = true)
    (sign : isBlank d = false) (found : d :: w <:+: front ++ back) : d :: w <:+: back := by
  induction front with
  | nil => exact found
  | cons c front ih =>
    obtain ⟨here, blanks⟩ := List.forall_mem_cons.mp blanks
    rcases List.infix_cons_iff.mp found with begins | later
    · obtain ⟨rfl, -⟩ := List.cons_prefix_cons.mp begins
      rw [here] at sign
      cases sign
    · exact ih blanks later

theorem opening_not_infix (inside : Bool) (cs : List Char) :
    ¬ opening <:+: (marked inside cs).flatMap shown := by
  intro found
  fun_induction marked inside cs with
  | case1 => simp [opening] at found
  | case2 cs ih =>
    have found : opening <:+: spaces 4 ++ (marked true cs).flatMap shown := found
    exact ih (infix_behind_blanks (List.all_eq_true.mp (by decide)) (by decide) found)
  | case3 cs ih =>
    have found : opening <:+: spaces 3 ++ (marked false cs).flatMap shown := found
    exact ih (infix_behind_blanks (List.all_eq_true.mp (by decide)) (by decide) found)
  | case4 inside c cs opens closes ih =>
    rw [List.flatMap_cons] at found
    cases inside with
    | true => exact ih (infix_behind_blanks (shown_of_comment c) (by decide) found)
    | false =>
      rcases List.infix_cons_iff.mp found with begins | later
      · obtain ⟨rfl, rest⟩ := List.cons_prefix_cons.mp begins
        have before := prefix_plainChars (List.all_iff_forall_prop.mp (by decide)) rest
        rw [plainChars_marked] at before
        obtain ⟨behind, rfl⟩ := before
        exact opens behind rfl rfl rfl
      · exact ih later

/-- Markup without comments stays as it is. -/
theorem blankFrom_of_unopened (unopened : ¬ opening <:+: cs) : blankFrom false cs = cs := by
  induction cs with
  | nil => rfl
  | cons c cs ih =>
    have here : ∀ rest, false = false → c = '<' → cs = '!' :: '-' :: '-' :: rest → False := by
      rintro rest - rfl rfl
      exact unopened (List.prefix_append opening rest).isInfix
    rw [blankFrom_cons false c cs here (by simp), ih fun found =>
      unopened (List.infix_cons_iff.mpr (.inr found))]
    rfl

/-- A cut of markup between characters is one of blanked markup. -/
theorem isBoundary_blankComments {position : Nat} (boundary : isBoundary cs position = true) :
    isBoundary (blankComments cs) position = true := by
  obtain ⟨⟨front, back⟩, cut⟩ := Option.isSome_iff_exists.mp boundary
  obtain ⟨rfl, rfl⟩ := splitBytes?_eq_some_iff.mp cut
  obtain ⟨first, last, marks, rfl, rfl⟩ :=
    List.map_eq_append_iff.mp (plainChars_marked false (front ++ back))
  rw [isBoundary, blankComments, blankFrom_eq_flatMap_shown, marks, List.flatMap_append]
  have size : byteLength (first.map (·.1)) = byteLength (first.flatMap shown) :=
    (byteLength_flatMap_shown first).symm
  rw [size, splitBytes?_append]
  rfl

/-- Blanking markup keeps all bytes outside its comments, makes all bytes inside them spaces but for
line feeds, and so keeps its length and its line feeds where they are. What comes out holds no
opening delimiter, so that it is blanked to itself, and a position between two characters of the
markup is between two characters of it. -/
theorem blankComments_inPlace (cs : List Char) :
    Commented cs 0 (comments cs) ∧
    byteLength (blankComments cs) = byteLength cs ∧
    (∀ i : Nat, (utf8 (blankComments cs))[i]? =
      (utf8 cs)[i]?.map (blankByte · (covered (comments cs) i))) ∧
    (∀ i : Nat, (utf8 (blankComments cs))[i]? = some feedByte ↔ (utf8 cs)[i]? = some feedByte) ∧
    ¬ opening <:+: blankComments cs ∧
    blankComments (blankComments cs) = blankComments cs ∧
    ∀ position, isBoundary cs position = true → isBoundary (blankComments cs) position = true := by
  have length : byteLength (blankComments cs) = byteLength cs := by
    rw [blankComments, blankFrom_eq_flatMap_shown, byteLength_flatMap_shown, markedBytes,
      plainChars_marked]
  have feeds (i : Nat) : (utf8 (blankComments cs))[i]? = some feedByte ↔
      (utf8 cs)[i]? = some feedByte := by
    rw [utf8_blankComments, Option.map_eq_some_iff]
    simp [blankByte_eq_feedByte_iff]
  have unopened : ¬ opening <:+: blankComments cs := by
    rw [blankComments, blankFrom_eq_flatMap_shown]
    exact opening_not_infix false cs
  exact ⟨commented_comments cs, length, utf8_blankComments cs, feeds, unopened,
    blankFrom_of_unopened unopened, fun _ => isBoundary_blankComments⟩

/-- A character of three bytes in an unclosed comment behind one that is closed. -/
theorem blankComments_inPlace_wide : let cs := "é<!--\n-->-->好<!-- 好".toList
    isBoundary cs 21 = true ∧ isBoundary (blankComments cs) 21 = true := by
  intro cs
  have inside : isBoundary cs 21 = true := by decide
  exact ⟨inside, (blankComments_inPlace cs).2.2.2.2.2.2 21 inside⟩

end Phrasebook.Markup
