import Phrasebook.Markup.Text
import Phrasebook.Proofs.Text.Slice

/-!
Where the comments of markup lie, and what blanking them leaves of a part of the markup. A part that
does not begin or end between two blanks covers the same bytes before and after, and reads the same
exactly when it meets no comment.
-/

namespace Phrasebook.Markup

open Text

/-- Spans of comments; the first argument is the position at which one has begun. -/
def commentsFrom : Option Nat → List Char → Nat → List Span
  | some start, [], p => [⟨start, p⟩]
  | none, [], _ => []
  | none, '<' :: '!' :: '-' :: '-' :: cs, p => commentsFrom (some p) cs (p + 4)
  | some start, '-' :: '-' :: '>' :: cs, p => ⟨start, p + 3⟩ :: commentsFrom none cs (p + 3)
  | begun, c :: cs, p => commentsFrom begun cs (p + c.utf8Size)

/-- The comments of markup: each begins at a `<!--` and goes to the next `-->`, or to the end. -/
def comments (cs : List Char) : List Span := commentsFrom none cs 0

/-- The characters, each with whether it is part of a comment. -/
def marked : Bool → List Char → List (Char × Bool)
  | _, [] => []
  | false, '<' :: '!' :: '-' :: '-' :: cs =>
    ('<', true) :: ('!', true) :: ('-', true) :: ('-', true) :: marked true cs
  | true, '-' :: '-' :: '>' :: cs => ('-', true) :: ('-', true) :: ('>', true) :: marked false cs
  | inside, c :: cs => (c, inside) :: marked inside cs

/-- What blanking shows in the place of a character. -/
def shown : Char × Bool → List Char
  | (c, true) => blank c
  | (c, false) => [c]

/-- The characters without their marks. -/
def plainChars (m : List (Char × Bool)) : List Char := m.map (·.1)

theorem plainChars_marked (inside : Bool) (cs : List Char) :
    plainChars (marked inside cs) = cs := by
  unfold plainChars
  fun_induction marked inside cs <;> simp_all

/-- Away from the two ends of a comment, one character is shown at a time. -/
theorem blankFrom_cons (inside : Bool) (c : Char) (cs : List Char)
    (opens : ∀ rest, inside = false → c = '<' → cs = '!' :: '-' :: '-' :: rest → False)
    (closes : ∀ rest, inside = true → c = '-' → cs = '-' :: '>' :: rest → False) :
    blankFrom inside (c :: cs) = shown (c, inside) ++ blankFrom inside cs := by
  rw [blankFrom.eq_def]
  split
  · contradiction
  · rename_i same
    obtain ⟨rfl, rfl⟩ := List.cons.inj same
    cases inside
    · exact (opens _ rfl rfl rfl).elim
    · rfl
  · rename_i same
    obtain ⟨rfl, rfl⟩ := List.cons.inj same
    cases inside
    · rfl
    · exact (closes _ rfl rfl rfl).elim
  · rename_i same
    obtain ⟨rfl, rfl⟩ := List.cons.inj same
    cases inside <;> rfl

theorem blankFrom_eq_flatMap_shown (inside : Bool) (cs : List Char) :
    blankFrom inside cs = (marked inside cs).flatMap shown := by
  fun_induction marked inside cs with
  | case1 => rfl
  | case2 cs ih => simp [blankFrom, ih, shown]; rfl
  | case3 cs ih => simp [blankFrom, ih, shown]; rfl
  | case4 inside c cs opens closes ih =>
    rw [blankFrom_cons inside c cs opens closes, ih, List.flatMap_cons]

/-- Bytes of marked characters. -/
def markedBytes (m : List (Char × Bool)) : Nat := byteLength (plainChars m)

theorem markedBytes_append (a b : List (Char × Bool)) :
    markedBytes (a ++ b) = markedBytes a + markedBytes b := by
  simp [markedBytes, plainChars, byteLength_append]

theorem byteLength_spaces (n : Nat) : byteLength (spaces n) = n := byteLength_replicate_blank n

theorem byteLength_shown (x : Char × Bool) : byteLength (shown x) = x.1.utf8Size := by
  obtain ⟨c, inside⟩ := x
  cases inside with
  | false => rfl
  | true =>
    simp only [shown, blank]
    split
    · rename_i feed
      rw [feed]
      rfl
    · exact byteLength_spaces _

theorem byteLength_flatMap_shown (m : List (Char × Bool)) :
    byteLength (m.flatMap shown) = markedBytes m := by
  induction m with
  | nil => rfl
  | cons x m ih =>
    rw [List.flatMap_cons, byteLength_append, byteLength_shown, ih]
    rfl

/-- What stands in the place of a character of a comment. -/
def isBlank (c : Char) : Bool := c == ' ' || c == '\n'

theorem shown_of_comment (c : Char) : ∀ d ∈ shown (c, true), isBlank d = true := by
  intro d hd
  simp only [shown, blank] at hd
  split at hd
  · rw [List.mem_singleton.mp hd]; rfl
  · rw [List.eq_of_mem_replicate hd]; rfl

theorem shown_ne_nil (x : Char × Bool) : shown x ≠ [] := by
  intro empty
  have size := byteLength_shown x
  rw [empty] at size
  exact absurd size.symm (Nat.ne_of_gt x.1.utf8Size_pos)

/-- A cut of a text that does not lie between two blanks. -/
def Edge (front back : List Char) : Prop :=
  ∀ c d, front.getLast? = some c → back.head? = some d → isBlank c = true → isBlank d = true → False

theorem Edge.of_append_left {first front back : List Char} (edge : Edge (first ++ front) back) :
    Edge front back := by
  intro c d last head
  exact edge c d (by rw [List.getLast?_append, last]; rfl) head

theorem Edge.of_append_right {front back last : List Char} (edge : Edge front (back ++ last)) :
    Edge front back := by
  intro c d final head
  exact edge c d final (by rw [List.head?_append, head]; rfl)

/-- What is shown of one character is not cut at an edge. -/
theorem Edge.not_inside {x : Char × Bool} {front back rest : List Char}
    (same : shown x = front ++ back) (edge : Edge front (back ++ rest)) :
    front = [] ∨ back = [] := by
  rcases List.eq_nil_or_concat front with rfl | ⟨initial, c, rfl⟩
  · exact .inl rfl
  cases back with
  | nil => exact .inr rfl
  | cons d back =>
    obtain ⟨e, inside⟩ := x
    cases inside with
    | false =>
      have length := congrArg List.length same
      simp only [shown, List.length_append, List.length_cons, List.length_concat,
        List.length_nil] at length
      omega
    | true =>
      have blanks := shown_of_comment e
      rw [same] at blanks
      exact (edge c d (by simp) rfl (blanks c (by simp)) (blanks d (by simp))).elim

/-- A cut at an edge of what is shown is a cut of the marked characters. -/
theorem cut_shown {m : List (Char × Bool)} {front back : List Char}
    (same : m.flatMap shown = front ++ back) (edge : Edge front back) :
    ∃ before after, m = before ++ after ∧ before.flatMap shown = front ∧
      after.flatMap shown = back := by
  induction m generalizing front with
  | nil =>
    obtain ⟨rfl, rfl⟩ := List.append_eq_nil_iff.mp same.symm
    exact ⟨[], [], rfl, rfl, rfl⟩
  | cons x m ih =>
    rw [List.flatMap_cons] at same
    rcases List.append_eq_append_iff.mp same with ⟨rest, rfl, tail⟩ | ⟨rest, head, rfl⟩
    · obtain ⟨before, after, rfl, rfl, rfl⟩ := ih tail edge.of_append_left
      exact ⟨x :: before, after, rfl, rfl, rfl⟩
    · rcases Edge.not_inside head edge with rfl | rfl
      · exact ⟨[], x :: m, rfl, rfl, by rw [List.flatMap_cons, head]; rfl⟩
      · rw [List.append_nil] at head
        exact ⟨[x], m, rfl, by simpa using head, rfl⟩

/-- At an edge of what is shown, a comment does not go on. -/
theorem Edge.not_both {before after : List (Char × Bool)} {c d : Char}
    (edge : Edge ((before ++ [(c, true)]).flatMap shown) (((d, true) :: after).flatMap shown)) :
    False := by
  have last : ((before ++ [(c, true)]).flatMap shown).getLast? =
      some ((shown (c, true)).getLast (shown_ne_nil _)) := by
    rw [List.flatMap_append, List.flatMap_singleton, List.getLast?_append_of_ne_nil,
      List.getLast?_eq_getLast_of_ne_nil (shown_ne_nil _)]
    exact shown_ne_nil _
  have head : (((d, true) :: after).flatMap shown).head? =
      some ((shown (d, true)).head (shown_ne_nil _)) := by
    rw [List.flatMap_cons, List.head?_append, List.head?_eq_some_head (shown_ne_nil _)]
    rfl
  exact edge _ _ last head (shown_of_comment c _ (List.getLast_mem _))
    (shown_of_comment d _ (List.head_mem _))

/-- The mark of the last character, or the given one before the first character. -/
def lastMark : Bool → List (Char × Bool) → Bool
  | mark, [] => mark
  | _, x :: rest => lastMark x.2 rest

theorem lastMark_append (mark : Bool) (a b : List (Char × Bool)) :
    lastMark mark (a ++ b) = lastMark (lastMark mark a) b := by
  induction a generalizing mark with
  | nil => rfl
  | cons x a ih => exact ih x.2

/-- Where no comment goes on, one begins with its opening bracket. -/
theorem marked_entry {inside : Bool} {cs : List Char} {before after : List (Char × Bool)} {c : Char}
    (same : marked inside cs = before ++ (c, true) :: after)
    (outside : lastMark inside before = false) : c = '<' := by
  fun_induction marked inside cs generalizing before with
  | case1 => simp at same
  | case2 cs ih =>
    rcases before with _ | ⟨_, _ | ⟨_, _ | ⟨_, _ | ⟨_, before⟩⟩⟩⟩ <;>
      simp only [List.nil_append, List.cons_append, List.cons.injEq, Prod.mk.injEq] at same
    · exact same.1.1.symm
    · rw [← same.1] at outside; cases outside
    · rw [← same.2.1] at outside; cases outside
    · rw [← same.2.2.1] at outside; cases outside
    · refine ih same.2.2.2.2 ?_
      rw [← same.2.2.2.1] at outside
      exact outside
  | case3 cs ih =>
    rcases before with _ | ⟨_, _ | ⟨_, _ | ⟨_, before⟩⟩⟩ <;>
      simp only [List.nil_append, List.cons_append, List.cons.injEq, Prod.mk.injEq] at same
    · cases outside
    · rw [← same.1] at outside; cases outside
    · rw [← same.2.1] at outside; cases outside
    · rw [← same.2.2.1] at outside
      cases before with
      | nil => cases outside
      | cons x before => exact ih same.2.2.2 outside
  | case4 inside d cs opens closes ih =>
    cases before with
    | nil =>
      obtain ⟨rfl, rfl⟩ := Prod.mk.inj (List.cons.inj same).1
      cases outside
    | cons x before =>
      obtain ⟨rfl, tail⟩ := List.cons.inj same
      exact ih tail outside

/-- Whether marked characters from a position on are part of a comment that meets a span. -/
def Touched : List (Char × Bool) → Nat → Span → Prop
  | [], _, _ => False
  | (c, inside) :: m, p, span =>
    (inside = true ∧ (Span.mk p (p + c.utf8Size)).overlaps span = true) ∨
      Touched m (p + c.utf8Size) span

theorem overlaps_iff (a b : Span) : a.overlaps b = true ↔ a.start < b.stop ∧ b.start < a.stop := by
  simp [Span.overlaps]

/-- Two spans that follow each other meet another one like the span that they make together. -/
theorem overlaps_join {a b c : Nat} (span : Span) (first : a ≤ b) (second : b ≤ c)
    (filled : span.start < span.stop) :
    (Span.mk a c).overlaps span = true ↔
      (Span.mk a b).overlaps span = true ∨ (Span.mk b c).overlaps span = true := by
  simp only [overlaps_iff]
  omega

theorem touched_append (a b : List (Char × Bool)) (p : Nat) (span : Span) :
    Touched (a ++ b) p span ↔ Touched a p span ∨ Touched b (p + markedBytes a) span := by
  induction a generalizing p with
  | nil => simp [Touched, markedBytes, plainChars, byteLength]
  | cons x a ih =>
    have length : p + x.1.utf8Size + markedBytes a = p + markedBytes (x :: a) :=
      Nat.add_assoc _ _ _
    rw [List.cons_append, Touched, Touched, ih, length, or_assoc]

/-- A part of a comment meets what its bytes meet. -/
theorem touched_comment {m : List (Char × Bool)} (part : ∀ x ∈ m, x.2 = true) (some_char : m ≠ [])
    (p : Nat) {span : Span} (filled : span.start < span.stop) :
    Touched m p span ↔ (Span.mk p (p + markedBytes m)).overlaps span = true := by
  induction m generalizing p with
  | nil => contradiction
  | cons x m ih =>
    have inside : x.2 = true := part x List.mem_cons_self
    have length : p + x.1.utf8Size + markedBytes m = p + markedBytes (x :: m) :=
      Nat.add_assoc _ _ _
    cases m with
    | nil => simp [Touched, inside, markedBytes, plainChars, byteLength]
    | cons y m =>
      have join := overlaps_join span (Nat.le_add_right p x.1.utf8Size)
        (Nat.le_add_right _ (markedBytes (y :: m))) filled
      rw [Touched, ih (fun z hz => part z (List.mem_cons_of_mem _ hz)) (List.cons_ne_nil _ _),
        ← length, join]
      simp [inside]

/-- The comments that meet a span are those of the marked characters that meet it. -/
theorem commentsFrom_overlaps_iff (begun : Option Nat) (cs : List Char) (p : Nat) (span : Span)
    (filled : span.start < span.stop) (order : ∀ start, begun = some start → start ≤ p) :
    (∃ c ∈ commentsFrom begun cs p, c.overlaps span = true) ↔
      (∃ start, begun = some start ∧ (Span.mk start p).overlaps span = true) ∨
        Touched (marked begun.isSome cs) p span := by
  fun_induction commentsFrom begun cs p with
  | case1 p start => simp [marked, Touched]
  | case2 p => simp [marked, Touched]
  | case3 cs p ih =>
    have opening : Touched [('<', true), ('!', true), ('-', true), ('-', true)] p span ↔
        (Span.mk p (p + 4)).overlaps span = true :=
      touched_comment (by decide) (by decide) p filled
    have parts := touched_append [('<', true), ('!', true), ('-', true), ('-', true)]
      (marked true cs) p span
    rw [ih (by simp), Option.isSome_none, marked]
    simp only [List.cons_append, List.nil_append] at parts
    rw [parts, opening]
    have bytes : markedBytes [('<', true), ('!', true), ('-', true), ('-', true)] = 4 := by decide
    rw [bytes]
    simp
  | case4 start cs p ih =>
    have before : start ≤ p := order start rfl
    have closing : Touched [('-', true), ('-', true), ('>', true)] p span ↔
        (Span.mk p (p + 3)).overlaps span = true :=
      touched_comment (by decide) (by decide) p filled
    have parts := touched_append [('-', true), ('-', true), ('>', true)]
      (marked false cs) p span
    have bytes : markedBytes [('-', true), ('-', true), ('>', true)] = 3 := by decide
    have join := overlaps_join span before (Nat.le_add_right p 3) filled
    have rest := ih (by simp)
    simp only [List.cons_append, List.nil_append] at parts
    rw [Option.isSome_some, marked, parts, closing, bytes]
    simp only [List.mem_cons, exists_eq_or_imp, rest, join]
    simp [or_assoc]
  | case5 begun c cs p opens closes ih =>
    have size : p ≤ p + c.utf8Size := Nat.le_add_right _ _
    have one : marked begun.isSome (c :: cs) = (c, begun.isSome) :: marked begun.isSome cs := by
      rw [marked]
      · exact fun rest outside => opens rest (Option.isNone_iff_eq_none.mp (by simpa using outside))
      · intro rest inside
        obtain ⟨start, rfl⟩ := Option.isSome_iff_exists.mp inside
        exact closes start rest rfl
    rw [ih fun start h => Nat.le_trans (order start h) size, one, Touched]
    cases begun with
    | none => simp
    | some start =>
      have join := overlaps_join span (order start rfl) size filled
      simp [join, or_assoc]

theorem markedBytes_cons (x : Char × Bool) (m : List (Char × Bool)) :
    markedBytes (x :: m) = x.1.utf8Size + markedBytes m := rfl

theorem not_touched_before {m : List (Char × Bool)} {p : Nat} {span : Span}
    (order : p + markedBytes m ≤ span.start) : ¬ Touched m p span := by
  induction m generalizing p with
  | nil => exact id
  | cons x m ih =>
    rw [markedBytes_cons] at order
    rintro (⟨-, met⟩ | met)
    · rw [overlaps_iff] at met
      exact absurd met.2 (by simp only; omega)
    · exact ih (by omega) met

theorem not_touched_behind {m : List (Char × Bool)} {p : Nat} {span : Span}
    (order : span.stop ≤ p) : ¬ Touched m p span := by
  induction m generalizing p with
  | nil => exact id
  | cons x m ih =>
    rintro (⟨-, met⟩ | met)
    · rw [overlaps_iff] at met
      exact absurd met.1 (by simp only; omega)
    · exact ih (by omega) met

theorem touched_covered_iff {m : List (Char × Bool)} {p : Nat} {span : Span}
    (start : span.start ≤ p) (stop : p + markedBytes m ≤ span.stop) :
    Touched m p span ↔ ∃ x ∈ m, x.2 = true := by
  induction m generalizing p with
  | nil => simp [Touched]
  | cons x m ih =>
    rw [markedBytes_cons] at stop
    have met : (Span.mk p (p + x.1.utf8Size)).overlaps span = true := by
      have size := x.1.utf8Size_pos
      rw [overlaps_iff]
      constructor <;> simp only <;> omega
    rw [Touched, ih (by omega) (by omega)]
    simp [met]

/-- A comment meets a part of markup exactly when a character of the part is marked. -/
theorem comments_overlap_iff {cs : List Char} {before part after : List (Char × Bool)}
    (same : marked false cs = before ++ part ++ after) (filled : 0 < markedBytes part) :
    (∃ c ∈ comments cs, c.overlaps
        ⟨markedBytes before, markedBytes before + markedBytes part⟩ = true) ↔
      ∃ x ∈ part, x.2 = true := by
  let span : Span := ⟨markedBytes before, markedBytes before + markedBytes part⟩
  have order : span.start < span.stop := by simp only [span]; omega
  have front : ¬ Touched before 0 span :=
    not_touched_before (Nat.le_of_eq (Nat.zero_add _))
  have inner : Touched part (markedBytes before) span ↔ ∃ x ∈ part, x.2 = true :=
    touched_covered_iff (Nat.le_refl _) (Nat.le_refl _)
  have back : ¬ Touched after (markedBytes (before ++ part)) span :=
    not_touched_behind (Nat.le_of_eq (markedBytes_append before part).symm)
  have whole := commentsFrom_overlaps_iff none cs 0 span order (by simp)
  rw [Option.isSome_none, same, touched_append, touched_append, Nat.zero_add, Nat.zero_add,
    inner] at whole
  simpa [front, back, comments] using whole

theorem shown_unmarked {m : List (Char × Bool)} (plain : ∀ x ∈ m, x.2 = false) :
    m.flatMap shown = plainChars m := by
  induction m with
  | nil => rfl
  | cons x m ih =>
    obtain ⟨c, inside⟩ := x
    obtain rfl : inside = false := plain _ List.mem_cons_self
    rw [List.flatMap_cons, ih fun y hy => plain y (List.mem_cons_of_mem _ hy)]
    rfl

/-- No comment goes on before a marked character at an edge. -/
theorem lastMark_at_edge {before after : List (Char × Bool)} {c : Char}
    (edge : Edge (before.flatMap shown) (((c, true) :: after).flatMap shown)) :
    lastMark false before = false := by
  rcases List.eq_nil_or_concat before with rfl | ⟨initial, ⟨d, inside⟩, rfl⟩
  · rfl
  · rw [List.concat_eq_append] at edge ⊢
    rw [lastMark_append]
    cases inside with
    | false => rfl
    | true => exact edge.not_both.elim

/-- A part that begins where no comment goes on reads the same after blanking exactly when none of
it is part of a comment. -/
theorem shown_part_iff {cs : List Char} {before part after : List (Char × Bool)}
    (same : marked false cs = before ++ part ++ after)
    (edge : Edge (before.flatMap shown) ((part ++ after).flatMap shown)) :
    plainChars part = part.flatMap shown ↔ ¬ ∃ x ∈ part, x.2 = true := by
  constructor
  · rintro read ⟨x, hx, inside⟩
    obtain ⟨first, found⟩ := Option.isSome_iff_exists.mp
      (List.find?_isSome.mpr ⟨x, hx, inside⟩ : (part.find? (·.2)).isSome)
    obtain ⟨mark, front, rest, rfl, unmarked⟩ := List.find?_eq_some_iff_append.mp found
    have plain : ∀ y ∈ front, y.2 = false := by simpa using unmarked
    obtain ⟨c, rfl⟩ : ∃ c, first = (c, true) := ⟨first.1, by rw [← mark]⟩
    -- The first marked character opens a comment, so its bracket is shown as a space.
    have outside : lastMark false (before ++ front) = false := by
      rcases List.eq_nil_or_concat front with rfl | ⟨front, y, rfl⟩
      · have start : Edge (before.flatMap shown)
            (((c, true) :: (rest ++ after)).flatMap shown) := by
          simpa using edge
        rw [List.append_nil]
        exact lastMark_at_edge start
      · rw [List.concat_eq_append, ← List.append_assoc, lastMark_append]
        exact plain y (by simp)
    have entry : marked false cs = (before ++ front) ++ (c, true) :: (rest ++ after) := by
      simpa using same
    obtain rfl : c = '<' := marked_entry entry outside
    rw [List.flatMap_append, shown_unmarked plain, plainChars, List.map_append] at read
    have heads := List.append_cancel_left read
    cases heads
  · intro none
    refine (shown_unmarked fun x hx => ?_).symm
    simpa using fun inside => none ⟨x, hx, inside⟩

/-- A part of blanked markup that neither begins nor ends between two blanks: the markup has a part
of the same bytes there, and it is the same text exactly when no comment meets it. -/
theorem blanked_part {cs front mid back : List Char}
    (same : blankComments cs = front ++ mid ++ back) (first : Edge front (mid ++ back))
    (last : Edge (front ++ mid) back) :
    ∃ before source after, cs = before ++ source ++ after ∧ byteLength before = byteLength front ∧
      byteLength source = byteLength mid ∧
      (mid ≠ [] → (source = mid ↔ ∀ c ∈ comments cs,
        c.overlaps ⟨byteLength front, byteLength front + byteLength mid⟩ = false)) := by
  rw [blankComments, blankFrom_eq_flatMap_shown] at same
  obtain ⟨initial, after, marks, begins, rfl⟩ := cut_shown same last
  obtain ⟨before, part, rfl, rfl, rfl⟩ := cut_shown begins first.of_append_right
  have whole := plainChars_marked false cs
  rw [marks] at whole
  refine ⟨plainChars before, plainChars part, plainChars after, ?_, ?_, ?_, fun filled => ?_⟩
  · rw [← whole]
    simp [plainChars]
  · exact (byteLength_flatMap_shown before).symm
  · exact (byteLength_flatMap_shown part).symm
  · have edge : Edge (before.flatMap shown) ((part ++ after).flatMap shown) := by
      rw [List.flatMap_append]
      exact first
    have bytes : 0 < markedBytes part := by
      rw [← byteLength_flatMap_shown]
      cases hmid : part.flatMap shown with
      | nil => exact absurd hmid filled
      | cons c rest => exact Nat.add_pos_left c.utf8Size_pos _
    rw [shown_part_iff marks edge, byteLength_flatMap_shown, byteLength_flatMap_shown,
      ← comments_overlap_iff marks bytes]
    simp

end Phrasebook.Markup
