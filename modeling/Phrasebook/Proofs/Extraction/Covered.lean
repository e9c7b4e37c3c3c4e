import Phrasebook.Proofs.Extraction.File
import Phrasebook.Proofs.WritingSystem.Runs
import Mathlib.Data.Bool.AllAny

/-!
Which runs of the writing system in the texts of markup come out of the scan, in a candidate or in a
text that is left alone.
-/

namespace Phrasebook.TemplateScan

open Markup Text

variable {settings : Settings} {block : Block} {file : String}

/-- A place in the file that no attribute that is found touches. -/
def Kept (settings : Settings) (block : Block) (span : Span) : Prop :=
  ∀ a ∈ scanAttributes settings block (blankComments block.content), span.overlaps a.span = false

/-- A part of the block that no attribute that is found touches. -/
def Free (settings : Settings) (block : Block) (span : Span) : Prop :=
  Kept settings block (span.shift block.offset)

/-- A quoted text with its quotes, in an expression at a position. -/
def quotedSpan (start : Nat) (piece : Piece) : Span :=
  ⟨start + piece.start, start + piece.span.stop + 2⟩

theorem covers_iff {a b : Span} : a.covers b = true ↔ a.start ≤ b.start ∧ b.stop ≤ a.stop := by
  simp [Span.covers]

theorem covers_shift {n : Nat} {a b : Span} : (a.shift n).covers (b.shift n) = a.covers b := by
  simp [Span.covers, Span.shift]

/-- A part of a text that is searched by runs finds exactly the runs of the text that lie in it. -/
theorem exists_scanRuns_iff (block : Block) {text x part y : List Char} {run : Span}
    (whole : text = x ++ part ++ y) (member : run ∈ settings.writing.runs text) (start : Nat)
    (Q : Span → Prop) : (∃ c ∈ scanRuns settings block ⟨start + byteLength x, part⟩,
      c.span.covers ((run.shift start).shift block.offset) = true ∧ Q c.span) ↔
    (byteLength x ≤ run.start ∧ run.stop ≤ byteLength x + byteLength part) ∧
      Q ((run.shift start).shift block.offset) := by
  subst whole
  have moved (inner : Span) : inner.shift (start + byteLength x) =
      (inner.shift (byteLength x)).shift start := by
    simp [Span.shift, Nat.add_assoc]
  simp only [scanRuns, List.mem_map, exists_exists_and_eq_and, plain, moved, covers_shift]
  constructor
  · rintro ⟨inner, listed, covers, good⟩
    have within := WritingSystem.within_of_mem_runs listed
    obtain ⟨starts, ends⟩ : byteLength x + inner.start ≤ run.start ∧
        run.stop ≤ byteLength x + inner.stop :=
      covers_iff.mp covers
    have inside : byteLength x ≤ run.start ∧ run.stop ≤ byteLength x + byteLength part := by omega
    obtain ⟨same, found, rfl⟩ := WritingSystem.exists_run_of_within member inside.1 inside.2
    obtain rfl : inner = same := by
      refine WritingSystem.eq_of_covers found listed ?_
      rwa [covers_shift] at covers
    exact ⟨inside, good⟩
  · rintro ⟨⟨starts, ends⟩, good⟩
    obtain ⟨inner, found, rfl⟩ := WritingSystem.exists_run_of_within member starts ends
    exact ⟨inner, found, by simp [Span.covers], good⟩

theorem exists_scanQuoted_iff (settings : Settings) (block : Block) (start : Nat)
    (chars : List Char) (Q : Span → Prop) :
    (∃ c ∈ scanQuoted settings block start chars, Q c.span) ↔
    ∃ piece ∈ quoted chars, settings.writing.occursIn (String.ofList piece.chars) = true ∧
      Q ((quotedSpan start piece).shift block.offset) := by
  simp only [scanQuoted, List.mem_filterMap]
  constructor
  · rintro ⟨c, ⟨piece, member, made⟩, good⟩
    split at made
    · obtain rfl := Option.some.inj made
      exact ⟨piece, member, ‹_›, good⟩
    · cases made
  · rintro ⟨piece, member, occurs, good⟩
    exact ⟨_, ⟨piece, member, if_pos occurs⟩, good⟩

theorem exists_mem_append {α : Type} {P : α → Prop} {as bs : List α} :
    (∃ c ∈ as ++ bs, P c) ↔ (∃ c ∈ as, P c) ∨ ∃ c ∈ bs, P c := by
  simp only [List.mem_append, or_and_right, exists_or]

/-- A run lies in front of an expression or behind it, if it does not touch it. -/
theorem overlaps_eq_false_iff {a b : Span} :
    a.overlaps b = false ↔ b.stop ≤ a.start ∨ a.stop ≤ b.start := by
  simp only [Span.overlaps, Bool.and_eq_false_iff, decide_eq_false_iff_not, Nat.not_lt]

/-- The expressions of a choice and the texts around them find a run by itself, if it touches no
expression, or in a quoted text of an expression. -/
theorem exists_scanChoices_iff (block : Block) {piece : Piece} {run : Span}
    (member : run ∈ settings.writing.runs piece.chars) {last : Nat} {is : List Interpolation}
    (laid : Laid piece.chars last is) (Q : Span → Prop) :
    (∃ c ∈ scanChoices settings block piece last is,
      c.span.covers ((run.shift piece.start).shift block.offset) = true ∧ Q c.span) ↔
    ((last ≤ run.start ∧ ∀ i ∈ is, i.span.overlaps run = false) ∧
      Q ((run.shift piece.start).shift block.offset)) ∨
    ∃ i ∈ is, ∃ q ∈ quoted ((slice? piece.chars i.span).getD []),
      settings.writing.occursIn (String.ofList q.chars) = true ∧
      (quotedSpan (piece.start + i.span.start) q).covers (run.shift piece.start) = true ∧
      Q ((quotedSpan (piece.start + i.span.start) q).shift block.offset) := by
  have inside := WritingSystem.within_of_mem_runs member
  induction is generalizing last with
  | nil =>
    obtain ⟨rest, stands, length⟩ := laid
    have sliced := stands.slice?
    rw [← length] at sliced
    obtain ⟨x, y, whole, rfl, -, -⟩ := stands
    have ends : run.stop ≤ byteLength x + byteLength rest := by omega
    rw [scanChoices, sliced, Option.getD_some, exists_scanRuns_iff block whole member]
    simp [ends]
  | cons i is ih =>
    obtain ⟨⟨gap, before, start⟩, ⟨expression, within, stop⟩, rest⟩ := laid
    have first := before.slice?
    rw [← start] at first
    obtain ⟨x, y, whole, rfl, -, -⟩ := before
    have quotes := exists_scanQuoted_iff settings block (piece.start + i.span.start)
      ((slice? piece.chars i.span).getD [])
      fun span => span.covers ((run.shift piece.start).shift block.offset) = true ∧ Q span
    rw [scanChoices, exists_mem_append, exists_mem_append, first, Option.getD_some,
      exists_scanRuns_iff block whole member, quotes, or_congr Iff.rfl (ih rest)]
    have apart : (byteLength x ≤ run.start ∧ ∀ j ∈ i :: is, j.span.overlaps run = false) ↔
        (byteLength x ≤ run.start ∧ run.stop ≤ byteLength x + byteLength gap) ∨
          (i.span.stop ≤ run.start ∧ ∀ j ∈ is, j.span.overlaps run = false) := by
      have later := rest.behind
      simp only [List.forall_mem_cons, overlaps_eq_false_iff]
      constructor
      · rintro ⟨starts, front | behind, others⟩
        · exact .inl ⟨starts, by omega⟩
        · exact .inr ⟨behind, others⟩
      · rintro (⟨starts, ends⟩ | ⟨starts, others⟩)
        · refine ⟨starts, .inl (by omega), fun j listed => .inl ?_⟩
          have := later j listed
          omega
        · exact ⟨by omega, .inr starts, others⟩
    rw [apart, or_and_right, List.exists_mem_cons_iff, or_or_or_comm]
    simp only [covers_shift]

/-- A candidate that lies in a part of the block. -/
def Inside (block : Block) (outer : Span) (c : Candidate) : Prop :=
  ∃ span, c.span = span.shift block.offset ∧ outer.covers span = true

theorem Inside.mono {outer wide : Span} {c : Candidate} (inside : Inside block outer c)
    (starts : wide.start ≤ outer.start) (ends : outer.stop ≤ wide.stop) : Inside block wide c := by
  obtain ⟨span, same, covers⟩ := inside
  have within := covers_iff.mp covers
  exact ⟨span, same, covers_iff.mpr ⟨by omega, by omega⟩⟩

theorem scanRuns_inside (piece : Piece) :
    ∀ c ∈ scanRuns settings block piece, Inside block piece.span c := by
  intro c found
  obtain ⟨run, member, rfl⟩ := List.mem_map.mp found
  have within := WritingSystem.within_of_mem_runs member
  refine ⟨run.shift piece.start, rfl, covers_iff.mpr ⟨Nat.le_add_right _ _, ?_⟩⟩
  exact Nat.add_le_add_left within.2 _

theorem scanQuoted_inside (start : Nat) (chars : List Char) :
    ∀ c ∈ scanQuoted settings block start chars,
      Inside block ⟨start, start + byteLength chars⟩ c := by
  intro c found
  obtain ⟨piece, member, made⟩ := List.mem_filterMap.mp found
  obtain ⟨quote, kind, stands⟩ := quotedIn_of_mem_quoted member
  have length : piece.start + (byteLength piece.chars + 2) ≤ byteLength chars := by
    have fits := stands.le
    rwa [byteLength_quoted kind] at fits
  split at made
  · obtain rfl := Option.some.inj made
    refine ⟨quotedSpan start piece, rfl, covers_iff.mpr ⟨Nat.le_add_right _ _, ?_⟩⟩
    simp only [quotedSpan, Piece.span]
    omega
  · cases made

theorem scanChoices_inside {piece : Piece} {last : Nat} {is : List Interpolation}
    (laid : Laid piece.chars last is) : ∀ c ∈ scanChoices settings block piece last is,
      Inside block ⟨piece.start + last, piece.span.stop⟩ c := by
  induction is generalizing last with
  | nil =>
    obtain ⟨rest, stands, length⟩ := laid
    have sliced := stands.slice?
    rw [← length] at sliced
    intro c found
    rw [scanChoices, sliced, Option.getD_some] at found
    refine (scanRuns_inside _ c found).mono (Nat.le_refl _) ?_
    simp only [Piece.span]
    omega
  | cons i is ih =>
    obtain ⟨⟨gap, before, start⟩, ⟨whole, inner, stop⟩, rest⟩ := laid
    have first := before.slice?
    have second := inner.slice?
    rw [← start] at first
    rw [← stop] at second
    have fits := before.le
    have ends := inner.le
    intro c found
    rw [scanChoices, first, second, Option.getD_some, Option.getD_some] at found
    rcases List.mem_append.mp found with found | found
    · rcases List.mem_append.mp found with found | found
      · refine (scanRuns_inside _ c found).mono (Nat.le_refl _) ?_
        simp only [Piece.span]
        omega
      · refine (scanQuoted_inside _ _ c found).mono ?_ ?_
        · simp only
          omega
        · simp only [Piece.span]
          omega
    · refine (ih rest c found).mono ?_ (Nat.le_refl _)
      simp only
      omega

/-- What is found in a text lies in it, the blanks around it apart. -/
theorem scanText_inside (piece : Piece) :
    ∀ c ∈ (scanText settings block file piece).candidates, Inside block
      (trimPiece piece).span c := by
  have whole : Inside block (trimPiece piece).span
      (plain block (trimPiece piece).span .text (trimPiece piece).chars (trimPiece piece).chars) :=
    ⟨_, rfl, covers_iff.mpr ⟨Nat.le_refl _, Nat.le_refl _⟩⟩
  intro c found
  unfold scanText at found
  simp only at found
  split at found
  · unfold scanInterpolated at found
    simp only at found
    split at found
    · exact scanChoices_inside (laid_interpolations _) c found
    · split at found
      · obtain rfl := List.mem_singleton.mp found
        exact whole
      · cases found
  · split at found
    · exact scanRuns_inside _ c found
    · obtain rfl := List.mem_singleton.mp found
      exact whole

/-- What a run in a text needs to be found: in a text with a choice it stands outside the
expressions and touches no attribute, or a text in plain quotes holds it that touches none; with
expressions that are all plain paths, or in a plain text, the whole text must not touch an
attribute; with other expressions the text is left alone and said to be. -/
def Reaches (settings : Settings) (block : Block) (text : Piece) (place : Span) : Prop :=
  if Text.contains ['\x7b', '\x7b'] text.chars && Text.contains ['\x7d', '\x7d'] text.chars then
    if (interpolations text.chars).any isChoice then
      ((∀ i ∈ interpolations text.chars, (i.span.shift text.start).overlaps place = false) ∧
        Free settings block place) ∨
      ∃ i ∈ interpolations text.chars, ∃ q ∈ quoted ((slice? text.chars i.span).getD []),
        settings.writing.occursIn (String.ofList q.chars) = true ∧
        (quotedSpan (text.start + i.span.start) q).covers place = true ∧
        Free settings block (quotedSpan (text.start + i.span.start) q)
    else ((interpolations text.chars).all fun i => isSimplePath (Text.trim i.body)) = true →
      Free settings block text.span
  else if text.chars.contains '>' then Free settings block place
  else Free settings block text.span

/-- A run of a text is in a candidate that is kept, or the text is left alone and said to be,
exactly if it is reached. -/
theorem reaches_iff (file : String) {piece : Piece} {run : Span}
    (member : run ∈ settings.writing.runs (trimPiece piece).chars) :
    ((∃ c ∈ (scanText settings block file piece).candidates,
        c.span.covers ((run.shift (trimPiece piece).start).shift block.offset) = true ∧
          Kept settings block c.span) ∨
      (scanText settings block file piece).skips ≠ []) ↔
    Reaches settings block (trimPiece piece) (run.shift (trimPiece piece).start) := by
  have within := WritingSystem.within_of_mem_runs member
  unfold scanText Reaches
  simp only
  generalize trimPiece piece = text at member within ⊢
  have covers : text.span.covers (run.shift text.start) = true :=
    covers_iff.mpr ⟨Nat.le_add_right _ _, Nat.add_le_add_left within.2 _⟩
  split
  · unfold scanInterpolated
    simp only
    split
    · have found := exists_scanChoices_iff block member (laid_interpolations text.chars)
        (Kept settings block)
      simpa [Span.overlaps_shift, covers_shift, Free] using found
    · have all_paths :
        ((interpolations text.chars).map fun i => Text.trim i.body).all isSimplePath =
          (interpolations text.chars).all fun i => isSimplePath (Text.trim i.body) := List.all_map
      rw [all_paths]
      cases (interpolations text.chars).all fun i => isSimplePath (Text.trim i.body) with
      | true => simp [covers_shift, covers, Free]
      | false => simp
  · split
    · have whole : text.chars = [] ++ text.chars ++ [] := by simp
      have found := exists_scanRuns_iff block whole member text.start (Kept settings block)
      simpa [byteLength, within.2, Free] using found
    · simp [plain, covers_shift, covers, Free]

theorem trimPiece_le (piece : Piece) :
    piece.span.start ≤ (trimPiece piece).span.start ∧
    (trimPiece piece).span.stop ≤ piece.span.stop := by
  have fits := (stands_trim piece.chars).le
  simp only [trimPiece, Piece.span]
  omega

/-- A run in what trimming leaves of a text is a run of that. -/
theorem exists_run_trimmed {piece : Piece} {run : Span}
    (member : run ∈ settings.writing.runs piece.chars)
    (covers : (trimPiece piece).span.covers (run.shift piece.start) = true) :
    ∃ inner ∈ settings.writing.runs (trimPiece piece).chars,
      inner.shift (trimPiece piece).start = run.shift piece.start := by
  obtain ⟨x, y, whole, lead, -, -⟩ := stands_trim piece.chars
  obtain ⟨starts, ends⟩ : piece.start + byteLength (piece.chars.takeWhile isSpace) ≤
    piece.start + run.start ∧
      piece.start + run.stop ≤ piece.start + byteLength (piece.chars.takeWhile isSpace) +
        byteLength (trim piece.chars) := covers_iff.mp covers
  rw [whole] at member
  obtain ⟨inner, found, rfl⟩ := WritingSystem.exists_run_of_within member (by omega) (by omega)
  refine ⟨inner, found, ?_⟩
  simp only [Span.shift, trimPiece, lead, Nat.add_assoc]

theorem mem_scanTexts_iff (settings : Settings) (block : Block) (file : String)
    (source : List Char) :
    (∀ c, c ∈ (scanTexts settings block file source).candidates ↔ ∃ piece ∈ textNodes source,
      settings.writing.occursIn (String.ofList piece.chars) = true ∧
        c ∈ (scanText settings block file piece).candidates) ∧
    ∀ s, s ∈ (scanTexts settings block file source).skips ↔ ∃ piece ∈ textNodes source,
      settings.writing.occursIn (String.ofList piece.chars) = true ∧
        s ∈ (scanText settings block file piece).skips := by
  have listed : ∀ piece, piece ∈ (textNodes source).filter
      (fun piece => settings.writing.occursIn (String.ofList piece.chars)) ↔
      piece ∈ textNodes source ∧ settings.writing.occursIn (String.ofList piece.chars) = true :=
    fun piece => List.mem_filter
  simp only [← and_assoc, ← listed]
  unfold scanTexts
  generalize (textNodes source).filter _ = pieces
  induction pieces with
  | nil => simp
  | cons piece pieces ih =>
    refine ⟨fun c => ?_, fun s => ?_⟩
    · rw [List.exists_mem_cons_iff, ← ih.1 c]
      exact List.mem_append
    · rw [List.exists_mem_cons_iff, ← ih.2 s]
      exact List.mem_append

theorem mem_candidates_iff {c : Candidate} : c ∈ (ofBlock settings block file).candidates ↔
    (c ∈ (scanTexts settings block file (blankComments block.content)).candidates ∧
      Kept settings block c.span) ∨ c ∈ scanAttributes settings block
    (blankComments block.content) := by
  simp [ofBlock, Kept]

/-- Text is left alone only with all of the text that it stands in. -/
theorem text_of_mem_skips {piece : Piece} {s : Skip}
    (found : s ∈ (scanText settings block file piece).skips) :
    s.text = String.ofList (trimPiece piece).chars := by
  unfold scanText scanInterpolated at found
  simp only at found
  split at found
  · split at found
    · cases found
    · split at found
      · cases found
      · rw [List.mem_singleton.mp found]
  · split at found <;> cases found

/-- Where a part of a text stands in the markup. -/
def placeOf (piece : Piece) (front mid : List Char) : Span :=
  (Span.mk (byteLength front) (byteLength front + byteLength mid)).shift piece.start

/-- Which runs in a text between two tags come out of the scan of the markup: those that are reached
and those in the value of an attribute that is found. A run is passed over in silence where it
touches an expression with a choice and no plain quotes hold it there, where its candidate touches
an attribute, and where it goes on into the blanks that are trimmed off. -/
theorem run_found_iff (settings : Settings) (block : Block) (file : String) {piece : Piece}
    (node : piece ∈ textNodes (blankComments block.content)) {front mid back : List Char}
    (run : settings.writing.IsRun piece.chars front mid back) :
    ((∃ c ∈ (ofBlock settings block file).candidates,
        c.span.covers ((placeOf piece front mid).shift block.offset) = true) ∨
      ∃ s ∈ (ofBlock settings block file).skips, s ∈ (scanText settings block file piece).skips ∧
        s.text = String.ofList (trimPiece piece).chars ∧
        (trimPiece piece).span.covers (placeOf piece front mid) = true) ↔
    ((trimPiece piece).span.covers (placeOf piece front mid) = true ∧
        Reaches settings block (trimPiece piece) (placeOf piece front mid)) ∨
      ∃ a ∈ scanAttributes settings block (blankComments block.content),
        a.span.covers ((placeOf piece front mid).shift block.offset) = true := by
  have occurs : settings.writing.occursIn (String.ofList piece.chars) = true := by
    obtain ⟨c, mid, rfl⟩ := List.exists_cons_of_ne_nil run.filled
    have inside := run.inside c List.mem_cons_self
    simp [WritingSystem.occursIn, run.whole, inside]
  have member := WritingSystem.mem_runs_iff.mpr ⟨front, mid, back, run, rfl⟩
  unfold placeOf
  generalize Span.mk (byteLength front) (byteLength front + byteLength mid) = span at member ⊢
  have within := WritingSystem.within_of_mem_runs member
  have inside : piece.span.covers (span.shift piece.start) = true :=
    covers_iff.mpr ⟨Nat.le_add_right _ _, Nat.add_le_add_left within.2 _⟩
  constructor
  · rintro (⟨c, found, covers⟩ | ⟨s, -, found, -, covers⟩)
    · rcases mem_candidates_iff.mp found with ⟨found, kept⟩ | found
      · obtain ⟨other, listed, -, found⟩ :=
          (mem_scanTexts_iff settings block file _).1 c |>.mp found
        obtain ⟨part, same, holds⟩ := scanText_inside other c found
        rw [same, covers_shift] at covers
        have filled : (span.shift piece.start).start < (span.shift piece.start).stop :=
          Nat.add_lt_add_left within.1 _
        obtain rfl : other = piece := by
          refine eq_of_overlaps listed node ((overlaps_iff _ _).mpr ?_)
          have outer := covers_iff.mp covers
          have wide := covers_iff.mp holds
          have home := covers_iff.mp inside
          have narrow := trimPiece_le other
          omega
        have held : (trimPiece other).span.covers (span.shift other.start) = true := by
          have outer := covers_iff.mp covers
          have wide := covers_iff.mp holds
          exact covers_iff.mpr ⟨by omega, by omega⟩
        obtain ⟨inner, listed, moved⟩ := exists_run_trimmed member held
        refine .inl ⟨held, ?_⟩
        rw [← covers_shift, ← same] at covers
        rw [← moved] at covers ⊢
        exact (reaches_iff file listed).mp (.inl ⟨c, found, covers, kept⟩)
      · exact .inr ⟨c, found, covers⟩
    · obtain ⟨inner, listed, same⟩ := exists_run_trimmed member covers
      refine .inl ⟨covers, ?_⟩
      rw [← same]
      exact (reaches_iff file listed).mp (.inr (List.ne_nil_of_mem found))
  · rintro (⟨covers, reached⟩ | ⟨a, found, covers⟩)
    · obtain ⟨inner, listed, same⟩ := exists_run_trimmed member covers
      rw [← same] at reached
      rcases (reaches_iff file listed).mpr reached with ⟨c, found, holds, kept⟩ | left
      · rw [same] at holds
        have listed :=
          (mem_scanTexts_iff settings block file _).1 c |>.mpr ⟨piece, node, occurs, found⟩
        exact .inl ⟨c, mem_candidates_iff.mpr (.inl ⟨listed, kept⟩), holds⟩
      · obtain ⟨s, found⟩ := List.exists_mem_of_ne_nil _ left
        have listed :=
          (mem_scanTexts_iff settings block file _).2 s |>.mpr ⟨piece, node, occurs, found⟩
        exact .inr ⟨s, listed, found, text_of_mem_skips found, covers⟩
    · exact .inl ⟨a, mem_candidates_iff.mpr (.inr found), covers⟩

theorem run_found_greeting :
    (⟨3, "你好".toList⟩ ∈ textNodes (blankComments "<p>你好</p>".toList) ∧
      WritingSystem.han.IsRun "你好".toList [] "你好".toList []) ∧
    Reaches (Settings.ofConfig {}) ⟨"<p>你好</p>".toList, 1, 0⟩ (trimPiece ⟨3, "你好".toList⟩) ⟨3, 9⟩ ∧
    ∃ c ∈ (ofBlock (Settings.ofConfig {}) ⟨"<p>你好</p>".toList, 1, 0⟩ "a.vue").candidates,
      c.span.covers ⟨3, 9⟩ = true := by
  have node : ⟨3, "你好".toList⟩ ∈ textNodes (blankComments "<p>你好</p>".toList) := by decide +kernel
  have run : WritingSystem.han.IsRun "你好".toList [] "你好".toList [] :=
    ⟨rfl, by decide, List.all_iff_forall_prop.mp (by decide +kernel), by simp, by simp⟩
  have reached : Reaches (Settings.ofConfig {}) ⟨"<p>你好</p>".toList, 1, 0⟩
      (trimPiece ⟨3, "你好".toList⟩) ⟨3, 9⟩ := by
    unfold Reaches Free Kept
    decide +kernel
  have found :=
    (run_found_iff (Settings.ofConfig {}) ⟨"<p>你好</p>".toList, 1, 0⟩ "a.vue" node run).mpr
    (.inl ⟨by decide +kernel, reached⟩)
  have never : (ofBlock (Settings.ofConfig {}) ⟨"<p>你好</p>".toList, 1, 0⟩ "a.vue").skips = [] := by
    decide +kernel
  rw [never] at found
  exact ⟨⟨node, run⟩, reached, found.resolve_right (by simp)⟩

/-- A text in backquotes is passed over in a choice: neither a candidate nor a text that is left
alone holds it. -/
theorem backquoted_branch_dropped :
    let source := "<p>\x7b\x7b ok ? \x60成功\x60 : '失败' \x7d\x7d</p>".toList
    let text := "\x7b\x7b ok ? \x60成功\x60 : '失败' \x7d\x7d".toList
    let front := "\x7b\x7b ok ? \x60".toList
    let back := "\x60 : '失败' \x7d\x7d".toList
    ⟨3, text⟩ ∈ textNodes (blankComments source) ∧
    WritingSystem.han.IsRun text front "成功".toList back ∧
    (∀ c ∈ (ofBlock (Settings.ofConfig {}) ⟨source, 1, 0⟩ "a.vue").candidates,
      c.span.covers (placeOf ⟨3, text⟩ front "成功".toList) = false) ∧
    (ofBlock (Settings.ofConfig {}) ⟨source, 1, 0⟩ "a.vue").skips = [] := by
  refine ⟨by
    decide +kernel, ⟨by decide, by decide, List.all_iff_forall_prop.mp (by decide +kernel), ?_, ?_⟩,
    by decide +kernel, by decide +kernel⟩
  · intro c last
    obtain rfl : '\x60' = c := by simpa using last
    decide +kernel
  · intro c first
    obtain rfl : '\x60' = c := by simpa using first
    decide +kernel

end Phrasebook.TemplateScan
