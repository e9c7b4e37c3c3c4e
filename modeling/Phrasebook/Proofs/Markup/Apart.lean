import Phrasebook.Proofs.Markup.Pieces
import Phrasebook.Proofs.WritingSystem.Runs

/-!
In which order the pieces of markup stand, and where comments may lie beside them. Pieces of one
kind come one after the other. A part of blanked markup that begins and ends with characters that
are no blanks lies outside all comments with its first and its last byte, and one that is cut off at
edges is not cut inside a comment.
-/

namespace Phrasebook.Markup

open Text

/-- Neither the first nor the last byte of a span lies in one of the comments. -/
def Clear (comments : List Span) (span : Span) : Prop :=
  ∀ comment ∈ comments, ¬(comment.start ≤ span.start ∧ span.start < comment.stop) ∧
    ¬(comment.start < span.stop ∧ span.stop ≤ comment.stop)

/-- Neither end of a span cuts one of the comments in two. -/
def Uncut (comments : List Span) (span : Span) : Prop :=
  ∀ comment ∈ comments, ¬(comment.start < span.start ∧ span.start < comment.stop) ∧
    ¬(comment.start < span.stop ∧ span.stop < comment.stop)

theorem Clear.uncut {comments : List Span} {span : Span} (clear : Clear comments span) :
    Uncut comments span := fun comment listed => by
  have ends := clear comment listed
  omega

theorem Clear.shift {comments : List Span} {span : Span} (clear : Clear comments span) (n : Nat) :
    Clear (comments.map (·.shift n)) (span.shift n) := by
  refine List.forall_mem_map.mpr fun comment listed => ?_
  have ends := clear comment listed
  simp only [Span.shift]
  omega

theorem Uncut.shift {comments : List Span} {span : Span} (uncut : Uncut comments span) (n : Nat) :
    Uncut (comments.map (·.shift n)) (span.shift n) := by
  refine List.forall_mem_map.mpr fun comment listed => ?_
  have ends := uncut comment listed
  simp only [Span.shift]
  omega

theorem comments_stop_le {cs : List Char} {comment : Span} (listed : comment ∈ comments cs)
    (starts : comment.start ≤ byteLength cs) : comment.stop ≤ byteLength cs := by
  by_contra longer
  let behind : Span := ⟨byteLength cs, byteLength cs + 1⟩
  have bytes : markedBytes (marked false cs) = byteLength cs := by
    rw [markedBytes, plainChars_marked]
  have untouched : ¬ Touched (marked false cs) 0 behind :=
    not_touched_before (by rw [bytes, Nat.zero_add])
  have overlap := commentsFrom_overlaps_iff none cs 0 behind (Nat.lt_succ_self _) (by simp)
  rw [Option.isSome_none] at overlap
  have met : comment.overlaps behind = true :=
    (overlaps_iff _ _).mpr ⟨Nat.lt_succ_of_le starts, Nat.lt_of_not_le longer⟩
  rcases overlap.mp ⟨comment, listed, met⟩ with ⟨_, begun, -⟩ | touched
  · cases begun
  · exact untouched touched

/-- A comment that meets the bytes of a character holds it. -/
theorem marked_of_overlaps {cs : List Char} {before after : List (Char × Bool)} {x : Char × Bool}
    (same : marked false cs = before ++ x :: after) {comment : Span}
    (listed : comment ∈ comments cs) (starts : comment.start < markedBytes before + x.1.utf8Size)
    (ends : markedBytes before < comment.stop) : x.2 = true := by
  have bytes : markedBytes [x] = x.1.utf8Size := Nat.add_zero _
  have size := x.1.utf8Size_pos
  have parts : marked false cs = before ++ [x] ++ after := by simpa using same
  have meets := comments_overlap_iff parts (by omega)
  obtain ⟨y, here, holds⟩ := meets.mp ⟨comment, listed, (overlaps_iff _ _).mpr (by
    simp only [bytes]
    exact ⟨starts, ends⟩)⟩
  obtain rfl := List.mem_singleton.mp here
  exact holds

/-- A cut of blanked markup at an edge, as one of the marked characters. -/
theorem marked_cut {cs front back : List Char} (same : blankComments cs = front ++ back)
    (edge : Edge front back) : ∃ before after, marked false cs = before ++ after ∧
      before.flatMap shown = front ∧ after.flatMap shown = back ∧
      markedBytes before = byteLength front := by
  rw [blankComments, blankFrom_eq_flatMap_shown] at same
  obtain ⟨before, after, parts, rfl, rfl⟩ := cut_shown same edge
  exact ⟨before, after, parts, rfl, rfl, (byteLength_flatMap_shown before).symm⟩

/-- No comment goes on over an edge of blanked markup. -/
theorem Edge.not_in_comment {cs front back : List Char} (same : blankComments cs = front ++ back)
    (edge : Edge front back) {comment : Span} (listed : comment ∈ comments cs) :
    ¬(comment.start < byteLength front ∧ byteLength front < comment.stop) := by
  rintro ⟨starts, ends⟩
  obtain ⟨before, after, parts, rfl, rfl, bytes⟩ := marked_cut same edge
  rw [← bytes] at starts ends
  have whole : byteLength cs = markedBytes before + markedBytes after := by
    rw [← markedBytes_append, ← parts, markedBytes, plainChars_marked]
  have inside := comments_stop_le listed (by omega)
  rcases List.eq_nil_or_concat before with rfl | ⟨initial, ⟨c, first⟩, rfl⟩
  · exact Nat.not_lt_zero _ starts
  cases after with
  | nil => exact absurd ends (by rw [whole] at inside; exact Nat.not_lt.mpr inside)
  | cons x after =>
    obtain ⟨d, second⟩ := x
    rw [List.concat_eq_append] at parts edge starts ends
    have size := c.utf8Size_pos
    have next := d.utf8Size_pos
    have length : markedBytes (initial ++ [(c, first)]) = markedBytes initial + c.utf8Size := by
      rw [markedBytes_append]
      rfl
    obtain rfl : second = true := marked_of_overlaps parts listed (by omega) ends
    obtain rfl : first = true :=
      marked_of_overlaps (x := (c, first)) (by simpa using parts) listed
        (by simp only; omega) (by omega)
    exact edge.not_both

/-- A character that is no blank does not lie in a comment with its first byte. -/
theorem not_begins_in_comment {cs front back : List Char} {c : Char}
    (same : blankComments cs = front ++ c :: back) (visible : isBlank c = false) {comment : Span}
    (listed : comment ∈ comments cs) :
    ¬(comment.start ≤ byteLength front ∧ byteLength front < comment.stop) := by
  rintro ⟨starts, ends⟩
  obtain ⟨before, after, parts, rfl, shows, bytes⟩ := marked_cut same (Edge.of_head rfl visible)
  rw [← bytes] at starts ends
  cases after with
  | nil => cases shows
  | cons x after =>
    have size := x.1.utf8Size_pos
    have holds := marked_of_overlaps parts listed (by omega) ends
    obtain ⟨d, mark⟩ := x
    obtain rfl : mark = true := holds
    have first : c ∈ shown (d, true) := by
      obtain ⟨e, rest, shape⟩ := List.exists_cons_of_ne_nil (shown_ne_nil (d, true))
      rw [List.flatMap_cons, shape] at shows
      rw [shape, ← (List.cons.inj shows).1]
      exact List.mem_cons_self
    rw [shown_of_comment d c first] at visible
    cases visible

/-- A character that is no blank does not lie in a comment with its last byte. -/
theorem not_ends_in_comment {cs front back : List Char} {c : Char}
    (same : blankComments cs = front ++ [c] ++ back) (visible : isBlank c = false) {comment : Span}
    (listed : comment ∈ comments cs) :
    ¬(comment.start < byteLength (front ++ [c]) ∧ byteLength (front ++ [c]) ≤ comment.stop) := by
  rintro ⟨starts, ends⟩
  obtain ⟨before, after, parts, shows, rfl, bytes⟩ :=
    marked_cut same (Edge.of_last (List.getLast?_concat) visible)
  rw [← bytes] at starts ends
  rcases List.eq_nil_or_concat before with rfl | ⟨initial, ⟨d, mark⟩, rfl⟩
  · exact Nat.not_lt_zero _ starts
  rw [List.concat_eq_append] at parts shows starts ends
  have size := d.utf8Size_pos
  have length : markedBytes (initial ++ [(d, mark)]) = markedBytes initial + d.utf8Size := by
    rw [markedBytes_append]
    rfl
  obtain rfl : mark = true :=
    marked_of_overlaps (x := (d, mark)) (by simpa using parts) listed
      (by simp only; omega) (by omega)
  have last : c ∈ shown (d, true) := by
    obtain ⟨rest, e, shape⟩ :=
      (List.eq_nil_or_concat (shown (d, true))).resolve_left (shown_ne_nil _)
    rw [List.flatMap_append, List.flatMap_singleton, shape, List.concat_eq_append,
      ← List.append_assoc] at shows
    rw [shape, ← (List.append_inj' shows rfl).2.symm |> List.cons.inj |>.1]
    simp
  rw [shown_of_comment d c last] at visible
  cases visible

theorem Stands.uncut {cs mid : List Char} {start : Nat}
    (stands : Stands (blankComments cs) start mid) :
    Uncut (comments cs) ⟨start, start + byteLength mid⟩ := by
  obtain ⟨front, back, same, rfl, first, last⟩ := stands
  intro comment listed
  refine ⟨first.not_in_comment (by rw [same, List.append_assoc]) listed, ?_⟩
  have behind := last.not_in_comment same listed
  rwa [byteLength_append] at behind

/-- A part of blanked markup with characters at its ends that are no blanks. -/
structure Visible (mid : List Char) : Prop where
  head : ∃ c, mid.head? = some c ∧ isBlank c = false
  last : ∃ c, mid.getLast? = some c ∧ isBlank c = false

theorem Visible.ne_nil {mid : List Char} (visible : Visible mid) : mid ≠ [] := by
  rintro rfl
  obtain ⟨c, head, -⟩ := visible.head
  cases head

theorem visible_of_forall {mid : List Char} (filled : mid ≠ [])
    (visible : ∀ c ∈ mid, isBlank c = false) : Visible mid :=
  ⟨⟨mid.head filled, List.head?_eq_some_head filled, visible _ (List.head_mem filled)⟩,
    ⟨mid.getLast filled, List.getLast?_eq_getLast_of_ne_nil filled,
      visible _ (List.getLast_mem filled)⟩⟩

theorem visible_of_tight {mid : List Char} (tight : Tight mid)
    (filled : mid ≠ []) : Visible mid := by
  have head := List.head?_eq_some_head filled
  have last := List.getLast?_eq_getLast_of_ne_nil filled
  exact ⟨⟨_, head, isBlank_of_not_isSpace (tight.head _ head)⟩,
    ⟨_, last, isBlank_of_not_isSpace (tight.last _ last)⟩⟩

theorem Stands.clear {cs mid : List Char} {start : Nat}
    (stands : Stands (blankComments cs) start mid) (visible : Visible mid) :
    Clear (comments cs) ⟨start, start + byteLength mid⟩ := by
  obtain ⟨front, back, same, rfl, -, -⟩ := stands
  obtain ⟨c, head, first⟩ := visible.head
  obtain ⟨d, last, second⟩ := visible.last
  intro comment listed
  constructor
  · obtain ⟨rest, rfl⟩ : ∃ rest, mid = c :: rest := by
      cases mid with
      | nil => cases head
      | cons e rest => exact ⟨rest, by rw [Option.some.inj head]⟩
    exact not_begins_in_comment (by simpa using same) first listed
  · obtain ⟨initial, rfl⟩ : ∃ initial, mid = initial ++ [d] := ⟨mid.dropLast, by
      rw [List.dropLast_append_getLast? d last]⟩
    have ends := @not_ends_in_comment _ (front ++ initial) _ _ (by simpa using same) second _ listed
    rwa [List.append_assoc, byteLength_append] at ends

/-- A run begins where the one that has begun does, or from here on. -/
theorem runsFrom_start {w : WritingSystem} {begun : Option Nat} {cs : List Char} {p next : Nat}
    (held : next ≤ begun.getD p) (order : begun.getD p ≤ p) :
    ∀ run ∈ w.runsFrom begun cs p, next ≤ run.start := by
  induction cs generalizing begun p next with
  | nil =>
    cases begun with
    | none => simp [WritingSystem.runsFrom]
    | some start => simpa [WritingSystem.runsFrom] using held
  | cons c cs ih =>
    have size := Nat.le_add_right p c.utf8Size
    cases begun with
    | none =>
      rw [Option.getD_none] at held
      cases inside : w.has c with
      | false =>
        have later := @ih none (p + c.utf8Size) next (Nat.le_trans held size) (Nat.le_refl _)
        simpa [WritingSystem.runsFrom, inside] using later
      | true =>
        have later := @ih (some p) (p + c.utf8Size) next held size
        simpa [WritingSystem.runsFrom, inside] using later
    | some start =>
      rw [Option.getD_some] at held order
      have passed := Nat.le_trans order size
      cases inside : w.has c with
      | false =>
        have later := @ih none (p + c.utf8Size) next (Nat.le_trans held passed) (Nat.le_refl _)
        simpa [WritingSystem.runsFrom, inside] using ⟨held, later⟩
      | true =>
        have later := @ih (some start) (p + c.utf8Size) next held passed
        simpa [WritingSystem.runsFrom, inside] using later

theorem runsFrom_apart {w : WritingSystem} (begun : Option Nat) (cs : List Char) (p : Nat) :
    (w.runsFrom begun cs p).Pairwise fun a b => a.stop ≤ b.start := by
  induction cs generalizing begun p with
  | nil => cases begun <;> simp [WritingSystem.runsFrom]
  | cons c cs ih =>
    cases begun with
    | none => cases inside : w.has c <;> simpa [WritingSystem.runsFrom, inside] using ih _ _
    | some start =>
      cases inside : w.has c with
      | false =>
        have later : ∀ run ∈ w.runsFrom none cs (p + c.utf8Size), p ≤ run.start :=
          runsFrom_start (Nat.le_add_right _ _) (Nat.le_refl _)
        simpa [WritingSystem.runsFrom, inside] using ⟨later, ih _ _⟩
      | true => simpa [WritingSystem.runsFrom, inside] using ih _ _

/-- Where the next quoted text begins, if one has begun that reaches up to here. -/
def QuoteReaches (p : Nat) : Option (Char × Nat × List Char) → Nat → Prop
  | none, next => next = p
  | some (_, start, inner), next => next = start ∧ p = start + 1 + byteLength inner.reverse

theorem quotedFrom_start {begun : Option (Char × Nat × List Char)} {cs : List Char} {p next : Nat}
    (held : QuoteReaches p begun next) : ∀ piece ∈ quotedFrom begun cs p, next ≤ piece.start := by
  fun_induction quotedFrom begun cs p generalizing next with
  | case1 => simp
  | case2 c cs p opens ih =>
    obtain rfl := held
    exact @ih next ⟨rfl, rfl⟩
  | case3 c cs p _ ih =>
    obtain rfl := held
    exact fun piece found => Nat.le_of_add_right_le (@ih (next + c.utf8Size) rfl piece found)
  | case4 quote start inner c cs p closes ih =>
    obtain ⟨rfl, rfl⟩ := held
    intro piece found
    rcases List.mem_cons.mp found with rfl | found
    · exact Nat.le_refl _
    · have behind := @ih _ rfl piece found
      omega
  | case5 quote start inner c cs p _ ih =>
    obtain ⟨rfl, rfl⟩ := held
    exact @ih next ⟨rfl, by rw [List.reverse_cons, byteLength_concat, Nat.add_assoc]⟩

/-- Quoted texts come one after the other with their quotes. -/
theorem quotedFrom_apart {begun : Option (Char × Nat × List Char)} {cs : List Char} {p next : Nat}
    (held : QuoteReaches p begun next) :
    (quotedFrom begun cs p).Pairwise fun a b => a.span.stop + 2 ≤ b.start := by
  fun_induction quotedFrom begun cs p generalizing next with
  | case1 => exact .nil
  | case2 c cs p opens ih => exact @ih p ⟨rfl, rfl⟩
  | case3 c cs p _ ih => exact @ih _ rfl
  | case4 quote start inner c cs p closes ih =>
    obtain ⟨-, rfl⟩ := held
    refine .cons (fun piece found => ?_) (@ih _ rfl)
    have behind := @quotedFrom_start none cs
        (start + 1 + byteLength inner.reverse + 1) _ rfl piece found
    simp only [Piece.span]
    omega
  | case5 quote start inner c cs p _ ih =>
    obtain ⟨rfl, rfl⟩ := held
    exact @ih next ⟨rfl, by rw [List.reverse_cons, byteLength_concat, Nat.add_assoc]⟩

theorem attributesFrom_start (names : List String) (skip : Nat) (cs : List Char) (p : Nat) :
    ∀ a ∈ attributesFrom names skip cs p, p + byteLength (cs.take skip) ≤ a.span.start := by
  fun_induction attributesFrom names skip cs p with
  | case1 => simp
  | case2 skip c cs p ih =>
    rw [List.take_succ_cons, byteLength]
    simpa only [Nat.add_assoc] using ih
  | case3 c cs p found here ih =>
    intro a member
    rw [List.take_zero]
    rcases List.mem_cons.mp member with rfl | member
    · exact Nat.le_add_right _ _
    · have behind := ih a member
      simp only [byteLength]
      omega
  | case4 c cs p _ ih =>
    intro a member
    exact Nat.le_trans (Nat.le_add_right _ _) (ih a member)

theorem attributesFrom_apart (names : List String) (skip : Nat) (cs : List Char) (p : Nat) :
    (attributesFrom names skip cs p).Pairwise fun a b => a.span.stop ≤ b.span.start := by
  fun_induction attributesFrom names skip cs p with
  | case1 => exact .nil
  | case2 skip c cs p ih => exact ih
  | case3 c cs p found here ih =>
    exact .cons (fun a member => attributesFrom_start names found.2.2 cs
      (p + c.utf8Size) a member) ih
  | case4 c cs p _ ih => exact ih

/-- Attributes come one after the other. -/
theorem attributes_apart (names : List String) (cs : List Char) :
    (attributes names cs).Pairwise fun a b => a.span.stop ≤ b.span.start := by
  unfold attributes
  split
  · rename_i found here
    refine .cons (fun a member => ?_) (attributesFrom_apart _ _ _ _)
    exact attributesFrom_start names found.2.2 cs 0 a member
  · exact attributesFrom_apart _ _ _ _

/-- A name of an attribute that does not begin with a character, or with a blank. -/
def Hollow (name : String) : Prop := ∀ c, name.toList.head? = some c → isSpace c = true

theorem closesQuote_parts {quote : Char} {cs : List Char} (closes : closesQuote quote cs = true) :
    ∃ back, cs = cs.takeWhile (· != quote) ++ quote :: back := by
  have mem : quote ∈ cs := by
    unfold closesQuote at closes
    split at closes
    · rename_i c rest stopped
      obtain rfl : c = quote := by simpa using closes
      exact (List.dropWhile_sublist _).subset (by rw [stopped]; exact List.mem_cons_self)
    · cases closes
  have whole := @List.takeWhile_append_dropWhile _ (· != quote) cs
  have stops := List.head?_dropWhile_not (· != quote) cs
  cases rest : cs.dropWhile (· != quote) with
  | nil => exact absurd (List.dropWhile_eq_nil_iff.mp rest quote mem) (by simp)
  | cons c back =>
    rw [rest] at whole stops
    obtain rfl : c = quote := by simpa using stops
    exact ⟨back, whole.symm⟩

theorem quotedValue?_parts {cs value : List Char} (read : quotedValue? cs = some value) :
    ∃ quote back, isBlank quote = false ∧ cs = quote :: value ++ quote :: back := by
  unfold quotedValue? at read
  split at read
  · split at read
    · rename_i closes
      obtain ⟨back, whole⟩ := closesQuote_parts closes
      obtain rfl := Option.some.inj read
      exact ⟨'"', back, rfl, congrArg _ whole⟩
    · cases read
  · split at read
    · rename_i closes
      obtain ⟨back, whole⟩ := closesQuote_parts closes
      obtain rfl := Option.some.inj read
      exact ⟨'\'', back, rfl, congrArg _ whole⟩
    · cases read
  · cases read

theorem takeWhile_append_drop (p : Char → Bool) (cs : List Char) :
    cs.takeWhile p ++ cs.drop (cs.takeWhile p).length = cs := by
  obtain ⟨rest, whole⟩ := List.takeWhile_prefix p (l := cs)
  generalize cs.takeWhile p = front at whole ⊢
  subst whole
  rw [List.drop_left]

/-- A value stands behind its name up to a quote. -/
theorem valueBehind?_parts {cs value : List Char} {n : Nat}
    (behind : valueBehind? cs = some (value, n)) :
    ∃ front quote, isBlank quote = false ∧ cs.take n = front ++ [quote] := by
  unfold valueBehind? at behind
  simp only at behind
  split at behind
  · rename_i rest equals
    obtain ⟨read, quoted, same⟩ := Option.map_eq_some_iff.mp behind
    obtain ⟨rfl, rfl⟩ := Prod.mk.inj same
    obtain ⟨quote, back, plain, value⟩ := quotedValue?_parts quoted
    have first := takeWhile_append_drop isSpace cs
    have second := takeWhile_append_drop isSpace rest
    rw [equals, ← second, value] at first
    refine ⟨cs.takeWhile isSpace ++ '=' :: rest.takeWhile isSpace ++ quote ::
      read, quote, plain, ?_⟩
    generalize cs.takeWhile isSpace = before at first ⊢
    generalize rest.takeWhile isSpace = after at first ⊢
    rw [← first]
    have length : before.length + 1 + after.length + read.length + 2 =
        (before ++ '=' :: after ++ quote :: read ++ [quote]).length := by
      simp only [List.length_append, List.length_cons, List.length_nil]
      omega
    have whole : before ++ '=' :: (after ++ (quote :: read ++ quote :: back)) =
        before ++ '=' :: after ++ quote :: read ++ [quote] ++ back := by simp
    rw [whole, length, List.take_left]
  · cases behind

/-- An attribute with a name that begins with a character has visible ends. -/
theorem visible_of_attributeHere? {names : List String} {cs : List Char}
    {found : String × List Char × Nat} (here : attributeHere? names cs = some found)
    (named : ¬Hollow found.1) : Visible (cs.take found.2.2) := by
  obtain ⟨name, -, read⟩ := List.exists_of_findSome?_eq_some here
  simp only at read
  split at read
  · rename_i letters
    obtain ⟨⟨value, n⟩, behind, rfl⟩ := Option.map_eq_some_iff.mp read
    obtain ⟨rest, rfl⟩ := List.isPrefixOf_iff_prefix.mp letters
    simp only [Hollow, not_forall, Bool.not_eq_true] at named
    obtain ⟨c, first, visible⟩ := named
    rw [List.drop_left] at behind
    obtain ⟨front, quote, plain, taken⟩ := valueBehind?_parts behind
    have whole : (name.toList ++ rest).take (name.toList.length + n) = name.toList ++
        (front ++ [quote]) := by
      rw [List.take_length_add_append, taken]
    rw [whole]
    refine ⟨⟨c, ?_, isBlank_of_not_isSpace visible⟩, quote, ?_, plain⟩
    · rw [List.head?_append, first]
      rfl
    · simp
  · cases read

/-- A part with visible ends stands wherever it is. -/
theorem Visible.stands {mid : List Char} (visible : Visible mid) (front back : List Char) :
    Stands (front ++ mid ++ back) (byteLength front) mid := by
  obtain ⟨c, head, first⟩ := visible.head
  obtain ⟨d, last, second⟩ := visible.last
  refine ⟨front, back, rfl, rfl, Edge.of_head ?_ first, Edge.of_last ?_ second⟩
  · rw [List.head?_append, head]
    rfl
  · rw [List.getLast?_append, last]
    rfl

theorem name_of_attributeHere? {names : List String} {cs : List Char}
    {found : String × List Char × Nat} (here : attributeHere? names cs = some found) :
    found.1 ∈ names := by
  obtain ⟨name, listed, read⟩ := List.exists_of_findSome?_eq_some here
  simp only at read
  split at read
  · obtain ⟨_, -, rfl⟩ := Option.map_eq_some_iff.mp read
    exact listed
  · cases read

theorem name_of_mem_attributesFrom (names : List String) (skip : Nat) (cs : List Char) (p : Nat) :
    ∀ a ∈ attributesFrom names skip cs p, a.name ∈ names := by
  fun_induction attributesFrom names skip cs p with
  | case1 => simp
  | case2 skip c cs p ih => exact ih
  | case3 c cs p found here ih =>
    refine List.forall_mem_cons.mpr ⟨?_, ih⟩
    split at here
    · exact name_of_attributeHere? here
    · cases here
  | case4 c cs p _ ih => exact ih

theorem name_of_mem_attributes {names : List String} {cs : List Char} {a : Attribute}
    (found : a ∈ attributes names cs) : a.name ∈ names := by
  unfold attributes at found
  split at found
  · rename_i here
    rcases List.mem_cons.mp found with rfl | found
    · exact name_of_attributeHere? here
    · exact name_of_mem_attributesFrom names _ cs 0 a found
  · exact name_of_mem_attributesFrom names _ cs 0 a found

/-- An attribute stands with visible ends, unless its name has none in front. -/
def Attribute.StandsIn (text : List Char) (a : Attribute) : Prop :=
  ¬Hollow a.name → ∃ mid, Visible mid ∧ Stands text a.span.start mid ∧
    a.span.stop = a.span.start + byteLength mid

theorem attributeOf_standsIn {names : List String} {cs : List Char}
    {found : String × List Char × Nat} (here : attributeHere? names cs = some found)
    (past : List Char) : (attributeOf cs (byteLength past) found).StandsIn (past ++ cs) := by
  intro named
  have visible := visible_of_attributeHere? here named
  have stands := visible.stands past (cs.drop found.2.2)
  rw [List.append_assoc, List.take_append_drop] at stands
  exact ⟨_, visible, stands, rfl⟩

theorem attributesFrom_standsIn (names : List String) (skip : Nat) {past cs : List Char} {p : Nat}
    (position : p = byteLength past) : ∀ a ∈ attributesFrom names skip cs p, a.StandsIn
    (past ++ cs) := by
  fun_induction attributesFrom names skip cs p generalizing past with
  | case1 => simp
  | case2 skip c cs p ih =>
    have later := @ih (past ++ [c]) (by rw [byteLength_concat, position])
    simpa using later
  | case3 c cs p found here ih =>
    have moved : p + c.utf8Size = byteLength (past ++ [c]) := by rw [byteLength_concat, position]
    intro a member
    rw [← List.singleton_append, ← List.append_assoc]
    rcases List.mem_cons.mp member with rfl | member
    · rw [moved]
      split at here
      · exact attributeOf_standsIn here _
      · cases here
    · exact ih moved a member
  | case4 c cs p _ ih =>
    have later := @ih (past ++ [c]) (by rw [byteLength_concat, position])
    simpa using later

theorem attributes_standsIn {names : List String} {cs : List Char} {a : Attribute}
    (found : a ∈ attributes names cs) : a.StandsIn cs := by
  unfold attributes at found
  split at found
  · rename_i here
    rcases List.mem_cons.mp found with rfl | found
    · exact attributeOf_standsIn here []
    · exact @attributesFrom_standsIn names _ [] _ _ rfl a found
  · exact @attributesFrom_standsIn names _ [] _ _ rfl a found

end Phrasebook.Markup
