import Phrasebook.Markup.Attribute
import Phrasebook.Proofs.Markup.Comments
import Phrasebook.Proofs.Text.Line
import Phrasebook.Proofs.Text.Split
import Phrasebook.Text.Space
import Phrasebook.WritingSystem.Basic
import Mathlib.Data.List.Infix
import Mathlib.Data.List.TakeWhile

/-!
Where the pieces stand that a text of markup is searched by. Each is a part of the text at its byte
position, and none begins or ends between two blanks. An expression is found where double braces are
opened and closed behind that; a text that has both, but closes them before it opens them, holds
none.
-/

namespace Phrasebook.Markup

open Text

/-- A part of a text at a byte position, cut off at edges. -/
def Stands (text : List Char) (start : Nat) (mid : List Char) : Prop :=
  ∃ front back, text = front ++ mid ++ back ∧ start = byteLength front ∧
    Edge front (mid ++ back) ∧ Edge (front ++ mid) back

theorem Stands.slice? {text mid : List Char} {start : Nat} (stands : Stands text start mid) :
    Text.slice? text ⟨start, start + byteLength mid⟩ = some mid := by
  obtain ⟨front, back, rfl, rfl, -, -⟩ := stands
  exact slice?_append front mid back

theorem Stands.le {text mid : List Char} {start : Nat} (stands : Stands text start mid) :
    start + byteLength mid ≤ byteLength text := by
  obtain ⟨front, back, rfl, rfl, -, -⟩ := stands
  simp only [byteLength_append]
  omega

theorem Edge.of_last {front back : List Char} {c : Char} (last : front.getLast? = some c)
    (visible : isBlank c = false) : Edge front back := by
  intro d e hd _ blank _
  rw [last] at hd
  obtain rfl := Option.some.inj hd
  rw [visible] at blank
  cases blank

theorem Edge.of_head {front back : List Char} {c : Char} (head : back.head? = some c)
    (visible : isBlank c = false) : Edge front back := by
  intro d e _ he _ blank
  rw [head] at he
  obtain rfl := Option.some.inj he
  rw [visible] at blank
  cases blank

theorem Edge.nil_left (back : List Char) : Edge [] back := by
  intro c d last
  cases last

theorem Edge.nil_right (front : List Char) : Edge front [] := by
  intro c d _ head
  cases head

/-- A cut inside a part is an edge of the whole, if it is one where it is at an end of the part. -/
theorem Edge.extend (first last : List Char) {front back : List Char} (edge : Edge front back)
    (at_start : front = [] → Edge first (back ++ last))
    (at_end : back = [] → Edge (first ++ front) last) : Edge (first ++ front) (back ++ last) := by
  cases front with
  | nil => simpa using at_start rfl
  | cons c front =>
    cases back with
    | nil => simpa using at_end rfl
    | cons d back =>
      intro e f he hf
      refine edge e f ?_ hf
      rwa [List.getLast?_append_of_ne_nil _ (List.cons_ne_nil _ _)] at he

/-- A part of a part is a part of the whole. -/
theorem Stands.trans {text part mid : List Char} {start inner : Nat}
    (outer : Stands text start part) (stands : Stands part inner mid) :
    Stands text (start + inner) mid := by
  obtain ⟨first, last, rfl, rfl, opens, closes⟩ := outer
  obtain ⟨front, back, rfl, rfl, begins, ends⟩ := stands
  refine ⟨first ++ front, back ++ last, by simp, (byteLength_append _ _).symm, ?_, ?_⟩
  · have edge := begins.extend first last
      (by rintro rfl; simpa using opens)
      (fun empty => by
        obtain ⟨rfl, rfl⟩ := List.append_eq_nil_iff.mp empty
        simpa using closes)
    simpa using edge
  · have edge := ends.extend first last
      (fun empty => by
        obtain ⟨rfl, rfl⟩ := List.append_eq_nil_iff.mp empty
        simpa using opens)
      (by rintro rfl; simpa using closes)
    simpa using edge

/-- The state of the search for texts: a text that has begun stands behind a `>`. -/
def TextBegun (past : List Char) : Option (Nat × List Char) → Prop
  | none => True
  | some (start, chars) => ∃ before, past = before ++ '>' :: chars.reverse ∧
      start = byteLength before + 1

theorem textNodesFrom_stands {begun : Option (Nat × List Char)} {past cs : List Char} {p : Nat}
    (held : TextBegun past begun) (position : p = byteLength past) :
    ∀ piece ∈ textNodesFrom begun cs p, Stands (past ++ cs) piece.start piece.chars := by
  fun_induction textNodesFrom begun cs p generalizing past with
  | case1 => simp
  | case2 cs p ih =>
    have next := @ih (past ++ ['>']) ⟨past, rfl, by omega⟩
        (by rw [byteLength_concat, position]; rfl)
    simpa using next
  | case3 c cs p _ ih =>
    have next := @ih (past ++ [c]) trivial (by rw [byteLength_concat, position])
    simpa using next
  | case4 start chars cs p ih =>
    obtain ⟨before, rfl, rfl⟩ := held
    have next := @ih (before ++ '>' :: chars.reverse ++ ['<']) trivial
      (by rw [byteLength_concat, position]; rfl)
    intro piece found
    rcases List.mem_cons.mp found with rfl | found
    · refine ⟨before ++ ['>'], '<' :: cs, by simp,
        (byteLength_concat before '>').symm, ?_, ?_⟩
      · exact Edge.of_last (c := '>') (by simp) rfl
      · exact Edge.of_head (c := '<') rfl rfl
    · simpa using next piece found
  | case5 start chars c cs p _ ih =>
    obtain ⟨before, rfl, rfl⟩ := held
    have next := @ih (before ++ '>' :: chars.reverse ++ [c]) ⟨before, by simp, rfl⟩
      (by rw [byteLength_concat, position])
    simpa using next

/-- A text between two tags stands where it was found. -/
theorem stands_of_mem_textNodes {cs : List Char} {piece : Piece} (found : piece ∈ textNodes cs) :
    Stands cs piece.start piece.chars :=
  textNodesFrom_stands (show TextBegun [] none from trivial) rfl piece found

/-- Where the next text begins, if one has begun that reaches up to here. -/
def TextReaches (p : Nat) : Option (Nat × List Char) → Nat → Prop
  | none, next => next = p
  | some (start, chars), next => next = start ∧ p = start + byteLength chars.reverse

theorem textNodesFrom_start {begun : Option (Nat × List Char)} {cs : List Char} {p next : Nat}
    (held : TextReaches p begun next) : ∀ piece ∈ textNodesFrom begun cs p, next ≤ piece.start := by
  fun_induction textNodesFrom begun cs p generalizing next with
  | case1 => simp
  | case2 cs p ih =>
    obtain rfl := held
    exact fun piece found => Nat.le_of_succ_le (@ih (next + 1) ⟨rfl, rfl⟩ piece found)
  | case3 c cs p _ ih =>
    obtain rfl := held
    exact fun piece found => Nat.le_of_add_right_le (@ih (next + c.utf8Size) rfl piece found)
  | case4 start chars cs p ih =>
    obtain ⟨rfl, rfl⟩ := held
    intro piece found
    rcases List.mem_cons.mp found with rfl | found
    · exact Nat.le_refl _
    · have behind := @ih _ rfl piece found
      omega
  | case5 start chars c cs p _ ih =>
    obtain ⟨rfl, rfl⟩ := held
    exact @ih next ⟨rfl, by rw [List.reverse_cons, byteLength_concat, Nat.add_assoc]⟩

theorem textNodesFrom_apart {begun : Option (Nat × List Char)} (cs : List Char) {p next : Nat}
    (held : TextReaches p begun next) :
    (textNodesFrom begun cs p).Pairwise fun a b => a.span.stop < b.span.start := by
  fun_induction textNodesFrom begun cs p generalizing next with
  | case1 => exact .nil
  | case2 cs p ih => exact @ih (p + 1) ⟨rfl, rfl⟩
  | case3 c cs p _ ih => exact @ih _ rfl
  | case4 start chars cs p ih =>
    obtain ⟨-, rfl⟩ := held
    exact .cons (textNodesFrom_start rfl) (@ih _ rfl)
  | case5 start chars c cs p _ ih =>
    obtain ⟨rfl, rfl⟩ := held
    exact @ih next ⟨rfl, by rw [List.reverse_cons, byteLength_concat, Nat.add_assoc]⟩

/-- Texts between tags do not overlap. -/
theorem eq_of_overlaps {cs : List Char} {a b : Piece} (first : a ∈ textNodes cs)
    (second : b ∈ textNodes cs) (overlap : a.span.overlaps b.span = true) : a = b := by
  simp only [Span.overlaps, Bool.and_eq_true, decide_eq_true_eq] at overlap
  have apart := textNodesFrom_apart cs (show TextReaches 0 none 0 from rfl)
  obtain ⟨i, hi, rfl⟩ := List.getElem_of_mem first
  obtain ⟨j, hj, rfl⟩ := List.getElem_of_mem second
  rcases Nat.lt_trichotomy i j with before | rfl | behind
  · exact (Nat.lt_asymm overlap.2 (List.pairwise_iff_getElem.mp apart i j hi hj before)).elim
  · rfl
  · exact (Nat.lt_asymm overlap.1 (List.pairwise_iff_getElem.mp apart j i hj hi behind)).elim

theorem isBlank_of_not_isSpace {c : Char} (visible : isSpace c = false) : isBlank c = false := by
  cases blank : isBlank c with
  | false => rfl
  | true =>
    simp only [isBlank, Bool.or_eq_true, beq_iff_eq] at blank
    rcases blank with rfl | rfl <;> exact absurd visible (by decide)

/-- What trimming leaves is cut off at edges. -/
theorem stands_trim (cs : List Char) :
    Stands cs (byteLength (cs.takeWhile isSpace)) (trim cs) := by
  obtain ⟨back, kept, -, hollow⟩ := dropWhile_parts cs
  have whole : cs = cs.takeWhile isSpace ++ trim cs ++ back := by
    rw [List.append_assoc, ← kept, List.takeWhile_append_dropWhile]
  refine ⟨cs.takeWhile isSpace, back, whole, rfl, ?_, ?_⟩
  · rw [← kept]
    intro c d _ head _ blank
    rw [isBlank_of_not_isSpace (isSpace_head?_dropWhile head)] at blank
    cases blank
  · rcases List.eq_nil_or_concat (trim cs) with empty | ⟨initial, c, concat⟩
    · rw [hollow empty]
      exact Edge.nil_right _
    · have last : (trim cs).getLast? = some c := by simp [concat]
      refine Edge.of_last (c := c) ?_ (isBlank_of_not_isSpace (isSpace_getLast?_trimEnd last))
      rw [List.getLast?_append, last]
      rfl

/-- A writing system has both blanks or neither. -/
def BlanksAlike (w : WritingSystem) : Prop := w.has ' ' = w.has '\n'

theorem BlanksAlike.has_eq {w : WritingSystem} (alike : BlanksAlike w) {c d : Char}
    (first : isBlank c = true) (second : isBlank d = true) : w.has c = w.has d := by
  simp only [isBlank, Bool.or_eq_true, beq_iff_eq] at first second
  rcases first with rfl | rfl <;> rcases second with rfl | rfl <;>
    first | rfl | exact alike | exact alike.symm

/-- A cut between a character of the writing system and one of another is an edge. -/
theorem BlanksAlike.edge {w : WritingSystem} (alike : BlanksAlike w) {front back : List Char}
    (differ : ∀ c d, front.getLast? = some c → back.head? = some d → w.has c ≠ w.has d) :
    Edge front back :=
  fun c d last head first second => differ c d last head (alike.has_eq first second)

/-- The state of the search for runs: a run that has begun reaches up to here and is cut off from
what stands before it. -/
def RunBegun (w : WritingSystem) (past : List Char) : Option Nat → Prop
  | none => ∀ c, past.getLast? = some c → w.has c = false
  | some start => ∃ before run, past = before ++ run ∧ start = byteLength before ∧ run ≠ [] ∧
      (∀ c ∈ run, w.has c = true) ∧ ∀ c, before.getLast? = some c → w.has c = false

/-- A run that has begun and does not go on is a longest one. -/
theorem RunBegun.stands {w : WritingSystem} (alike : BlanksAlike w) {past : List Char}
    {start : Nat} (rest : List Char) (held : RunBegun w past (some start))
    (ends : ∀ c, rest.head? = some c → w.has c = false) :
    ∃ mid, mid ≠ [] ∧ Stands (past ++ rest) start mid ∧
      byteLength past = start + byteLength mid := by
  obtain ⟨before, run, rfl, rfl, filled, inside, apart⟩ := held
  refine ⟨run, filled, ⟨before, rest, rfl, rfl, alike.edge ?_, alike.edge ?_⟩,
    byteLength_append _ _⟩
  · intro c d last head
    rw [List.head?_append_of_ne_nil _ filled] at head
    rw [apart c last, inside d (List.mem_of_head? head)]
    exact Bool.false_ne_true
  · intro c d last head
    rw [List.getLast?_append_of_ne_nil _ filled] at last
    rw [inside c (List.mem_of_getLast? last), ends d head]
    exact Bool.true_eq_false.mp

theorem runsFrom_stands {w : WritingSystem} (alike : BlanksAlike w) {begun : Option Nat}
    {past cs : List Char} {p : Nat} (held : RunBegun w past begun)
    (position : p = byteLength past) :
    ∀ run ∈ w.runsFrom begun cs p, ∃ mid, mid ≠ [] ∧ Stands (past ++ cs) run.start mid ∧
      run.stop = run.start + byteLength mid := by
  induction cs generalizing begun past p with
  | nil =>
    cases begun with
    | none => simp [WritingSystem.runsFrom]
    | some start =>
      obtain ⟨mid, filled, stands, bytes⟩ := held.stands alike [] (by simp)
      simpa [WritingSystem.runsFrom, position] using ⟨mid, filled, by simpa using stands, bytes⟩
  | cons c cs ih =>
    have moved : p + c.utf8Size = byteLength (past ++ [c]) := by rw [byteLength_concat, position]
    cases begun with
    | none =>
      cases inside : w.has c with
      | false =>
        have none_begun : RunBegun w (past ++ [c]) none := by simpa [RunBegun] using inside
        simpa [WritingSystem.runsFrom, inside] using ih none_begun moved
      | true =>
        have begins : RunBegun w (past ++ [c]) (some p) :=
          ⟨past, [c], rfl, position, List.cons_ne_nil _ _, by simpa using inside, held⟩
        simpa [WritingSystem.runsFrom, inside] using ih begins moved
    | some start =>
      cases inside : w.has c with
      | false =>
        have none_begun : RunBegun w (past ++ [c]) none := by simpa [RunBegun] using inside
        obtain ⟨mid, filled, stands, bytes⟩ := held.stands alike (c :: cs) (by simpa using inside)
        have first : p = start + byteLength mid := position.trans bytes
        simpa [WritingSystem.runsFrom, inside] using
          And.intro ⟨mid, filled, stands, first⟩ (by simpa using ih none_begun moved)
      | true =>
        obtain ⟨before, run, rfl, rfl, filled, within, apart⟩ := held
        have goes_on : RunBegun w (before ++ run ++ [c]) (some (byteLength before)) := by
          refine ⟨before, run ++ [c], by simp, rfl, by simp, ?_, apart⟩
          intro d hd
          rcases List.mem_append.mp hd with hd | hd
          · exact within d hd
          · rw [List.mem_singleton.mp hd, inside]
        simpa [WritingSystem.runsFrom, inside] using ih goes_on moved

/-- A run stands at its span. -/
theorem stands_of_mem_runs {w : WritingSystem} (alike : BlanksAlike w) {cs : List Char} {run : Span}
    (found : run ∈ w.runs cs) :
    ∃ mid, mid ≠ [] ∧ Stands cs run.start mid ∧ run.stop = run.start + byteLength mid :=
  runsFrom_stands alike (show RunBegun w [] none by intro c last; cases last) rfl run found

/-- The state of the search for quoted texts: one that has begun stands behind its quote. -/
def QuoteBegun (past : List Char) : Option (Char × Nat × List Char) → Prop
  | none => True
  | some (quote, start, inner) => (quote = '\'' ∨ quote = '"') ∧
      ∃ before, past = before ++ quote :: inner.reverse ∧ start = byteLength before

/-- A quoted text stands at its position with its quotes. -/
def QuotedIn (text : List Char) (piece : Piece) : Prop :=
  ∃ quote, (quote = '\'' ∨ quote = '"') ∧ Stands text piece.start (quote :: piece.chars ++ [quote])

theorem byteLength_quoted {quote : Char} (kind : quote = '\'' ∨ quote = '"') (chars : List Char) :
    byteLength (quote :: chars ++ [quote]) = byteLength chars + 2 := by
  have size : quote.utf8Size = 1 := by rcases kind with rfl | rfl <;> rfl
  rw [byteLength_concat, byteLength, size]
  omega

theorem quotedFrom_stands {begun : Option (Char × Nat × List Char)} {past cs : List Char} {p : Nat}
    (held : QuoteBegun past begun) (position : p = byteLength past) :
    ∀ piece ∈ quotedFrom begun cs p, QuotedIn (past ++ cs) piece := by
  fun_induction quotedFrom begun cs p generalizing past with
  | case1 => simp
  | case2 c cs p opens ih =>
    have quote : c = '\'' ∨ c = '"' := by simpa using (Bool.and_eq_true_iff.mp opens).1
    have begins : QuoteBegun (past ++ [c]) (some (c, p, [])) := ⟨quote, past, rfl, position⟩
    have moved : p + 1 = byteLength (past ++ [c]) := by
      rw [byteLength_concat, position]
      rcases quote with rfl | rfl <;> rfl
    simpa using ih begins moved
  | case3 c cs p _ ih =>
    have none_begun : QuoteBegun (past ++ [c]) none := trivial
    simpa using ih none_begun (by rw [byteLength_concat, position])
  | case4 quote start inner c cs p closes ih =>
    obtain rfl : c = quote := by simpa using closes
    obtain ⟨kind, before, rfl, rfl⟩ := held
    have visible : isBlank c = false := by rcases kind with rfl | rfl <;> rfl
    have moved : p + 1 = byteLength (before ++ c :: inner.reverse ++ [c]) := by
      rw [byteLength_concat, position]
      rcases kind with rfl | rfl <;> rfl
    have none_begun : QuoteBegun (before ++ c :: inner.reverse ++ [c]) none := trivial
    intro piece found
    rcases List.mem_cons.mp found with rfl | found
    · refine ⟨c, kind, before, cs, by simp, rfl, ?_, ?_⟩
      · exact Edge.of_head (c := c) rfl visible
      · refine Edge.of_last (c := c) ?_ visible
        rw [← List.append_assoc, List.getLast?_append]
        rfl
    · simpa using ih none_begun moved piece found
  | case5 quote start inner c cs p _ ih =>
    obtain ⟨kind, before, rfl, rfl⟩ := held
    have goes_on : QuoteBegun (before ++ quote :: inner.reverse ++ [c])
        (some (quote, byteLength before, c :: inner)) := ⟨kind, before, by simp, rfl⟩
    simpa using ih goes_on (by rw [byteLength_concat, position])

theorem quotedIn_of_mem_quoted {cs : List Char} {piece : Piece} (found : piece ∈ quoted cs) :
    QuotedIn cs piece :=
  quotedFrom_stands (show QuoteBegun [] none from trivial) rfl piece found

/-- The expressions of a text one after the other from a position on: each stands behind a part that
is cut off from it, and such a part is left at the end. -/
def Laid (text : List Char) : Nat → List Interpolation → Prop
  | last, [] => ∃ rest, Stands text last rest ∧ byteLength text = last + byteLength rest
  | last, i :: is =>
    (∃ gap, Stands text last gap ∧ i.span.start = last + byteLength gap) ∧
      (∃ whole, Stands text i.span.start whole ∧ i.span.stop = i.span.start + byteLength whole) ∧
      Laid text i.span.stop is

theorem Laid.behind {text : List Char} {last : Nat} {is : List Interpolation}
    (laid : Laid text last is) : ∀ i ∈ is, last ≤ i.span.start ∧ i.span.start ≤ i.span.stop := by
  induction is generalizing last with
  | nil => simp
  | cons i is ih =>
    obtain ⟨⟨gap, -, start⟩, ⟨whole, -, stop⟩, rest⟩ := laid
    intro j member
    rcases List.mem_cons.mp member with rfl | later
    · omega
    · have behind := ih rest j later
      omega

/-- The state of the search for expressions: what was read behind the last one, and the expression
that has begun. -/
def ExpressionBegun (past done : List Char) : Option (Nat × List Char) → Prop
  | none => ∃ gap, past = done ++ gap
  | some (start, body) => ∃ gap, past = done ++ gap ++ '\x7b' :: '\x7b' :: body.reverse ∧
      start = byteLength (done ++ gap)

theorem interpolationsFrom_laid {begun : Option (Nat × List Char)}
    {past done cs : List Char} {p : Nat} (held : ExpressionBegun past done begun)
    (cut : ∀ back, Edge done back) (position : p = byteLength past) :
    Laid (past ++ cs) (byteLength done) (interpolationsFrom begun cs p) := by
  fun_induction interpolationsFrom begun cs p generalizing past done with
  | case1 cs p ih =>
    obtain ⟨gap, rfl⟩ := held
    have begins : ExpressionBegun (done ++ gap ++ ['\x7b', '\x7b']) done (some (p, [])) :=
      ⟨gap, rfl, position⟩
    have moved : p + 2 = byteLength (done ++ gap ++ ['\x7b', '\x7b']) := by
      rw [byteLength_append, position]
      rfl
    simpa using ih begins cut moved
  | case2 start body cs p ih =>
    obtain ⟨gap, rfl, rfl⟩ := held
    let whole := '\x7b' :: '\x7b' :: body.reverse ++ ['\x7d', '\x7d']
    have moved : p + 2 = byteLength (done ++ gap ++ whole) := by
      rw [← List.append_assoc, byteLength_append _ ['\x7d', '\x7d'], position]
      rfl
    have last : (done ++ gap ++ whole).getLast? = some '\x7d' := by
      rw [← List.append_assoc, List.getLast?_append]
      rfl
    have braced (back : List Char) : Edge (done ++ gap ++ whole) back := Edge.of_last last rfl
    have opens (back : List Char) : Edge (done ++ gap) (whole ++ back) :=
      Edge.of_head (c := '\x7b') rfl rfl
    have none_begun : ExpressionBegun (done ++ gap ++ whole) (done ++ gap ++ whole) none :=
      ⟨[], by simp⟩
    have text : done ++ gap ++ '\x7b' :: '\x7b' :: body.reverse ++ '\x7d' :: '\x7d' :: cs =
        done ++ gap ++ whole ++ cs := by simp [whole]
    have rest := ih none_begun braced moved
    rw [text]
    refine ⟨⟨gap, ⟨done, whole ++ cs, by simp, rfl, cut _, opens cs⟩, byteLength_append _ _⟩,
      ⟨whole, ⟨done ++ gap, cs, rfl, rfl, opens cs, braced cs⟩, ?_⟩, ?_⟩
    · exact moved.trans (byteLength_append _ _)
    · simpa [moved] using rest
  | case3 c cs p _ ih =>
    obtain ⟨gap, rfl⟩ := held
    have goes_on : ExpressionBegun (done ++ gap ++ [c]) done none := ⟨gap ++ [c], by simp⟩
    simpa using ih goes_on cut (by rw [byteLength_concat, position])
  | case4 start body c cs p _ ih =>
    obtain ⟨gap, rfl, rfl⟩ := held
    have goes_on : ExpressionBegun (done ++ gap ++ '\x7b' :: '\x7b' :: body.reverse ++ [c]) done
        (some (byteLength (done ++ gap), c :: body)) := ⟨gap, by simp, rfl⟩
    simpa using ih goes_on cut (by rw [byteLength_concat, position])
  | case5 begun p =>
    obtain ⟨rest, rfl⟩ : ∃ rest, past = done ++ rest := by
      cases begun with
      | none => exact held
      | some state =>
        obtain ⟨gap, rfl, -⟩ := held
        exact ⟨_, List.append_assoc _ _ _⟩
    refine ⟨rest, ⟨done, [], by simp, rfl, cut _, Edge.nil_right _⟩, ?_⟩
    rw [List.append_nil, byteLength_append]

/-- The expressions of a text lie one after the other. -/
theorem laid_interpolations (cs : List Char) : Laid cs 0 (interpolations cs) :=
  interpolationsFrom_laid (show ExpressionBegun [] [] none from ⟨[], rfl⟩) Edge.nil_left rfl

/-- An attribute has at least its equals sign. -/
theorem attributeHere?_filled {names : List String} {cs : List Char}
    {found : String × List Char × Nat} (here : attributeHere? names cs = some found) :
    0 < byteLength (cs.take found.2.2) := by
  obtain ⟨name, -, read⟩ := List.exists_of_findSome?_eq_some here
  simp only at read
  split at read
  · obtain ⟨⟨value, n⟩, behind, rfl⟩ := Option.map_eq_some_iff.mp read
    have some_char : cs ≠ [] := by
      rintro rfl
      simp [valueBehind?] at behind
    have some_more : 0 < n := by
      unfold valueBehind? at behind
      simp only at behind
      split at behind
      · obtain ⟨_, -, same⟩ := Option.map_eq_some_iff.mp behind
        have counted := (Prod.mk.inj same).2
        omega
      · cases behind
    have taken : cs.take (name.toList.length + n) ≠ [] := by
      rw [ne_eq, List.take_eq_nil_iff]
      exact not_or.mpr ⟨by omega, some_char⟩
    cases hcs : cs.take (name.toList.length + n) with
    | nil => contradiction
    | cons c rest => exact Nat.add_pos_left c.utf8Size_pos _
  · cases read

theorem attributeOf_filled {names : List String} {cs : List Char} {start : Nat}
    {found : String × List Char × Nat} (here : attributeHere? names cs = some found) :
    (attributeOf cs start found).span.start < (attributeOf cs start found).span.stop :=
  Nat.lt_add_of_pos_right (attributeHere?_filled here)

theorem attributesFrom_filled (names : List String) (skip : Nat) (cs : List Char) (p : Nat) :
    ∀ a ∈ attributesFrom names skip cs p, a.span.start < a.span.stop := by
  fun_induction attributesFrom names skip cs p with
  | case1 => simp
  | case2 skip c cs p ih => exact ih
  | case3 c cs p found here ih =>
    intro a member
    rcases List.mem_cons.mp member with rfl | member
    · split at here
      · exact attributeOf_filled here
      · cases here
    · exact ih a member
  | case4 c cs p _ ih => exact ih

theorem attributes_filled {names : List String} {cs : List Char} {a : Attribute}
    (found : a ∈ attributes names cs) : a.span.start < a.span.stop := by
  unfold attributes at found
  split at found
  · rename_i here
    rcases List.mem_cons.mp found with rfl | found
    · exact attributeOf_filled here
    · exact attributesFrom_filled _ _ _ _ a found
  · exact attributesFrom_filled _ _ _ _ a found

/-- A text that has double braces of both kinds. -/
def Braced (cs : List Char) : Prop := ['\x7b', '\x7b'] <:+: cs ∧ ['\x7d', '\x7d'] <:+: cs

/-- A text in which double braces are opened and, behind that, closed. -/
def Encloses (cs : List Char) : Prop :=
  ∃ front back, cs = front ++ '\x7b' :: '\x7b' :: back ∧ ['\x7d', '\x7d'] <:+: back

/-- A text that has double braces of both kinds and closes none that it has opened. -/
def BracesApart (cs : List Char) : Prop := Braced cs ∧ ¬ Encloses cs

theorem braced_iff {cs : List Char} :
    (Text.contains ['\x7b', '\x7b'] cs && Text.contains ['\x7d', '\x7d'] cs) =
      true ↔ Braced cs := by
  rw [Bool.and_eq_true, Text.contains_iff_infix, Text.contains_iff_infix, Braced]

theorem Encloses.closes {cs : List Char} (encloses : Encloses cs) : ['\x7d', '\x7d'] <:+: cs := by
  obtain ⟨front, back, rfl, closes⟩ := encloses
  exact closes.trans ⟨front ++ ['\x7b', '\x7b'], [], by simp⟩

/-- Braces that are not opened at the front of a text are opened behind its first character. -/
theorem encloses_cons_iff {c : Char} {cs : List Char}
    (other : ∀ rest, c = '\x7b' → cs ≠ '\x7b' :: rest) : Encloses (c :: cs) ↔ Encloses cs := by
  constructor
  · rintro ⟨front, back, whole, closes⟩
    cases front with
    | nil =>
      obtain ⟨rfl, rest⟩ := List.cons.inj whole
      exact absurd rest (other back rfl)
    | cons d front =>
      obtain ⟨rfl, rfl⟩ := List.cons.inj whole
      exact ⟨front, back, rfl, closes⟩
  · rintro ⟨front, back, rfl, closes⟩
    exact ⟨c :: front, back, rfl, closes⟩

theorem closes_cons_iff {c : Char} {cs : List Char}
    (other : ∀ rest, c = '\x7d' → cs ≠ '\x7d' :: rest) :
    ['\x7d', '\x7d'] <:+: c :: cs ↔ ['\x7d', '\x7d'] <:+: cs := by
  rw [List.infix_cons_iff]
  refine ⟨fun found => found.resolve_left ?_, .inr⟩
  rintro ⟨rest, whole⟩
  obtain ⟨here, behind⟩ := List.cons.inj whole
  exact other rest here.symm behind.symm

/-- What is still to be seen of a text for an expression to be found in it: closing braces if some
are open. -/
def Ends (cs : List Char) : Option (Nat × List Char) → Prop
  | none => Encloses cs
  | some _ => ['\x7d', '\x7d'] <:+: cs

theorem interpolationsFrom_ne_nil_iff (begun : Option (Nat × List Char))
    (cs : List Char) (p : Nat) : interpolationsFrom begun cs p ≠ [] ↔ Ends cs begun := by
  fun_induction interpolationsFrom begun cs p with
  | case1 cs p ih =>
    rw [ih]
    refine ⟨fun closes => ⟨[], cs, rfl, closes⟩, fun encloses => ?_⟩
    -- Wherever the text opens braces, it closes them behind these first two.
    have closes := (closes_cons_iff (by simp)).mp encloses.closes
    exact (closes_cons_iff (by simp)).mp closes
  | case2 start body cs p ih => exact iff_of_true (List.cons_ne_nil _ _) ⟨[], cs, rfl⟩
  | case3 c cs p other ih =>
    rw [ih]
    exact (encloses_cons_iff other).symm
  | case4 start body c cs p other ih =>
    rw [ih]
    exact (closes_cons_iff other).symm
  | case5 begun p =>
    refine iff_of_false (fun found => found rfl) ?_
    cases begun with
    | none => exact fun encloses => by simpa using encloses.closes
    | some => exact fun closes => by simpa using List.infix_nil.mp closes

/-- An expression is found in a text exactly if it opens and closes double braces. -/
theorem interpolations_ne_nil_iff {cs : List Char} : interpolations cs ≠ [] ↔ Encloses cs :=
  interpolationsFrom_ne_nil_iff none cs 0

theorem bracesApart_iff {cs : List Char} : BracesApart cs ↔ Braced cs ∧ interpolations cs = [] := by
  rw [BracesApart, ← interpolations_ne_nil_iff, not_not]

end Phrasebook.Markup
