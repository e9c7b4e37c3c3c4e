import Phrasebook.Proofs.Extraction.Covered
import Phrasebook.Proofs.Markup.Apart

/-!
Where the candidates of a component's markup stand. They do not overlap, each stands between
characters of the file and inside the markup, its line counts the line feeds before it in the whole
file, and none begins or ends in a comment. Two settings leave room for exceptions: a writing system
that has a white space, and a name of an attribute that does not begin with a character.
-/

namespace Phrasebook

open Markup Text

/-- A writing system that has a white space. -/
def WritingSystem.Spaced (w : WritingSystem) : Prop := ∃ c, isSpace c = true ∧ w.has c = true

theorem Span.shift_inj {n : Nat} {a b : Span} (same : a.shift n = b.shift n) : a = b := by
  obtain ⟨starts, stops⟩ := Span.mk.inj same
  cases a
  cases b
  rw [Span.mk.injEq]
  exact ⟨Nat.add_left_cancel starts, Nat.add_left_cancel stops⟩

namespace TemplateScan

variable {settings : Settings} {block : Block} {file : String}

/-- What a candidate from a text between two tags is made of: of the whole text without the blanks
around it, of a run in a part of it, or of a text in quotes. -/
inductive Made (settings : Settings) (block : Block) (source : List Char) (c : Candidate) : Prop
  | text {piece : Piece} (node : piece ∈ textNodes source)
      (occurs : settings.writing.occursIn (String.ofList piece.chars) = true)
      (span : c.span = (trimPiece piece).span.shift block.offset)
      (line : c.line = lineOf block (trimPiece piece).start) (site : c.site = .text)
      (raw : c.raw = String.ofList (trimPiece piece).chars)
      (empty : (trimPiece piece).chars = [] → c.text = "")
  | run {piece : Piece} (found : c ∈ scanRuns settings block piece)
  | quoted {start : Nat} {chars : List Char} (found : c ∈ scanQuoted settings block start chars)

theorem scanChoices_made {source : List Char} {piece : Piece} {last : Nat}
    {is : List Interpolation} :
    ∀ c ∈ scanChoices settings block piece last is, Made settings block source c := by
  induction is generalizing last with
  | nil => exact fun c found => .run found
  | cons i is ih =>
    intro c found
    rcases List.mem_append.mp found with found | found
    · rcases List.mem_append.mp found with found | found
      · exact .run found
      · exact .quoted found
    · exact ih c found

theorem scanText_made {source : List Char} {piece : Piece} (node : piece ∈ textNodes source)
    (occurs : settings.writing.occursIn (String.ofList piece.chars) = true) :
    ∀ c ∈ (scanText settings block file piece).candidates, Made settings block source c := by
  intro c found
  unfold scanText at found
  simp only at found
  split at found
  · rename_i braces
    unfold scanInterpolated at found
    simp only at found
    split at found
    · exact scanChoices_made c found
    · split at found
      · obtain rfl := List.mem_singleton.mp found
        refine .text node occurs rfl rfl rfl rfl fun empty => ?_
        rw [empty] at braces
        exact absurd braces (by decide)
      · cases found
  · split at found
    · exact .run found
    · obtain rfl := List.mem_singleton.mp found
      exact .text node occurs rfl rfl rfl rfl fun empty => congrArg String.ofList empty

theorem made_of_mem_scanTexts {source : List Char} {c : Candidate}
    (found : c ∈ (scanTexts settings block file source).candidates) :
    Made settings block source c := by
  obtain ⟨piece, node, occurs, found⟩ :=
    (mem_scanTexts_iff settings block file source).1 c |>.mp found
  exact scanText_made node occurs c found

/-- A candidate has the line of its first byte. -/
def Lined (block : Block) (c : Candidate) : Prop :=
  ∃ span : Span, c.span = span.shift block.offset ∧ c.line = lineOf block span.start

theorem Made.lined {source : List Char} {c : Candidate} (made : Made settings block source c) :
    Lined block c := by
  cases made with
  | text node occurs span line => exact ⟨_, span, line⟩
  | run found =>
    obtain ⟨run, -, rfl⟩ := List.mem_map.mp found
    exact ⟨_, rfl, rfl⟩
  | quoted found =>
    obtain ⟨piece, -, made⟩ := List.mem_filterMap.mp found
    split at made
    · obtain rfl := Option.some.inj made
      exact ⟨_, rfl, rfl⟩
    · cases made

/-- A run records its characters, which are some and belong to the writing system. -/
theorem mid_of_mem_scanRuns {piece : Piece} {c : Candidate}
    (found : c ∈ scanRuns settings block piece) :
    ∃ mid, c.raw = String.ofList mid ∧ mid ≠ [] ∧ ∀ d ∈ mid, settings.writing.has d = true := by
  obtain ⟨run, member, rfl⟩ := List.mem_map.mp found
  obtain ⟨front, mid, back, ⟨whole, filled, inside, -, -⟩, rfl⟩ :=
    WritingSystem.mem_runs_iff.mp member
  refine ⟨mid, ?_, filled, inside⟩
  simp only [whole, slice?_append front mid back, Option.getD_some, plain]

/-- What a candidate from a text records has visible ends, unless the writing system has a white
space; then it may have none, if it is a text of blanks. -/
theorem Made.visible (alike : BlanksAlike settings.writing) {source : List Char} {c : Candidate}
    (made : Made settings block source c) :
    (∃ mid, c.raw = String.ofList mid ∧ Visible mid) ∨
      settings.writing.Spaced ∧ (c.raw = "" → c.site = .text ∧ c.text = "") := by
  cases made with
  | @text piece node occurs span line site raw empty =>
    by_cases filled : (trimPiece piece).chars = []
    · obtain ⟨b, member, inside⟩ : ∃ b ∈ piece.chars, settings.writing.has b = true := by
        simpa [WritingSystem.occursIn] using occurs
      obtain ⟨front, back, whole, before, behind⟩ := trim_parts piece.chars
      rw [show trim piece.chars = [] from filled, List.append_nil] at whole
      rw [whole] at member
      have space := (List.mem_append.mp member).elim (before b) (behind b)
      exact .inr ⟨⟨b, space, inside⟩, fun _ => ⟨site, empty filled⟩⟩
    · exact .inl ⟨_, raw, visible_of_tight (tight_trim _) filled⟩
  | @run piece found =>
    obtain ⟨mid, raw, filled, inside⟩ := mid_of_mem_scanRuns found
    cases spaced : settings.writing.has ' ' with
    | true =>
      refine .inr ⟨⟨' ', by decide, spaced⟩, fun empty => absurd ?_ filled⟩
      exact String.ofList_inj.mp (raw.symm.trans empty)
    | false =>
      refine .inl ⟨mid, raw, visible_of_forall filled fun c member => ?_⟩
      cases blank : isBlank c with
      | false => rfl
      | true =>
        have same := alike.has_eq blank (show isBlank ' ' = true from rfl)
        rw [inside c member, spaced] at same
        cases same
  | @quoted start chars found =>
    obtain ⟨piece, member, made⟩ := List.mem_filterMap.mp found
    obtain ⟨quote, kind, stands⟩ := quotedIn_of_mem_quoted member
    have plain : isBlank quote = false := by rcases kind with rfl | rfl <;> rfl
    have length : piece.span.stop + 2 = piece.start +
        byteLength (quote :: piece.chars ++ [quote]) := by
      rw [byteLength_quoted kind, Piece.span, Nat.add_assoc]
    have sliced := stands.slice?
    rw [← length] at sliced
    split at made
    · rw [sliced] at made
      obtain rfl := Option.some.inj made
      exact .inl ⟨_, rfl, ⟨quote, rfl, plain⟩, quote, List.getLast?_concat, plain⟩
    · cases made

/-- Candidates one after the other. -/
def InOrder (a b : Candidate) : Prop := a.span.stop ≤ b.span.start

theorem scanRuns_inOrder (piece : Piece) : (scanRuns settings block piece).Pairwise InOrder := by
  refine List.pairwise_map.mpr ((runsFrom_apart none piece.chars 0).imp fun {a b} apart => ?_)
  simp only [InOrder, plain, Span.shift]
  omega

theorem scanQuoted_inOrder (start : Nat) (chars : List Char) :
    (scanQuoted settings block start chars).Pairwise InOrder := by
  have apart := @quotedFrom_apart none chars 0 0 rfl
  refine List.pairwise_filterMap.mpr (apart.imp fun {a b} apart c first d second => ?_)
  split at first
  · split at second
    · obtain rfl := Option.some.inj first
      obtain rfl := Option.some.inj second
      simp only [InOrder, plain, Span.shift]
      omega
    · cases second
  · cases first

/-- What lies in a part comes before what lies in a later one. -/
theorem Inside.inOrder {first second : Span} {c d : Candidate} (here : Inside block first c)
    (there : Inside block second d) (order : first.stop ≤ second.start) : InOrder c d := by
  obtain ⟨a, same, inside⟩ := here
  obtain ⟨b, same', inside'⟩ := there
  have ends := covers_iff.mp inside
  have starts := covers_iff.mp inside'
  simp only [InOrder, same, same', Span.shift]
  omega

theorem scanChoices_inOrder {piece : Piece} {last : Nat} {is : List Interpolation}
    (laid : Laid piece.chars last is) :
    (scanChoices settings block piece last is).Pairwise InOrder := by
  induction is generalizing last with
  | nil => exact scanRuns_inOrder _
  | cons i is ih =>
    obtain ⟨⟨gap, before, start⟩, ⟨whole, inner, stop⟩, rest⟩ := laid
    have first := before.slice?
    have second := inner.slice?
    rw [← start] at first
    rw [← stop] at second
    rw [scanChoices, first, second, Option.getD_some, Option.getD_some]
    refine List.pairwise_append.mpr ⟨List.pairwise_append.mpr
      ⟨scanRuns_inOrder _, scanQuoted_inOrder _ _, fun c here d there => ?_⟩, ih rest,
        fun c here d there => ?_⟩
    · refine (scanRuns_inside _ c here).inOrder (scanQuoted_inside _ _ d there) ?_
      simp only [Piece.span]
      omega
    · have behind := scanChoices_inside rest d there
      rcases List.mem_append.mp here with here | here
      · refine (scanRuns_inside _ c here).inOrder behind ?_
        simp only [Piece.span]
        omega
      · refine (scanQuoted_inside _ _ c here).inOrder behind ?_
        simp only
        omega

theorem scanText_inOrder (piece : Piece) :
    (scanText settings block file piece).candidates.Pairwise InOrder := by
  unfold scanText
  simp only
  split
  · unfold scanInterpolated
    simp only
    split
    · exact scanChoices_inOrder (laid_interpolations _)
    · split
      · exact List.pairwise_singleton _ _
      · exact .nil
  · split
    · exact scanRuns_inOrder _
    · exact List.pairwise_singleton _ _

theorem scanTexts_inOrder (source : List Char) :
    (scanTexts settings block file source).candidates.Pairwise InOrder := by
  unfold scanTexts
  have apart := (textNodesFrom_apart source (show TextReaches 0 none 0 from rfl)).filter
    fun piece => settings.writing.occursIn (String.ofList piece.chars)
  have within (piece : Piece) (c : Candidate)
    (found : c ∈ (scanText settings block file piece).candidates) :
      Inside block piece.span c :=
    have fits := trimPiece_le piece
    (scanText_inside piece c found).mono fits.1 fits.2
  change (List.filter _ (textNodes source)).Pairwise _ at apart
  have lies : ∀ (pieces : List Piece) (c : Candidate),
      c ∈ (pieces.foldr (fun piece rest =>
        (scanText settings block file piece).append rest) {}).candidates →
      ∃ piece ∈ pieces, Inside block piece.span c := by
    intro pieces
    induction pieces with
    | nil => simp
    | cons piece pieces ih =>
      intro c found
      rcases List.mem_append.mp found with found | found
      · exact ⟨piece, List.mem_cons_self, within piece c found⟩
      · obtain ⟨other, member, inside⟩ := ih c found
        exact ⟨other, List.mem_cons_of_mem _ member, inside⟩
  generalize (textNodes source).filter _ = pieces at apart ⊢
  induction pieces with
  | nil => exact .nil
  | cons piece pieces ih =>
    obtain ⟨first, rest⟩ := List.pairwise_cons.mp apart
    refine List.pairwise_append.mpr ⟨scanText_inOrder piece, ih rest, fun c here d there => ?_⟩
    obtain ⟨other, member, inside⟩ := lies pieces d there
    exact (within piece c here).inOrder inside (Nat.le_of_lt (first other member))

/-- What a candidate from an attribute is made of. -/
theorem made_of_mem_scanAttributes {source : List Char} {c : Candidate}
    (found : c ∈ scanAttributes settings block source) :
    ∃ a ∈ attributes settings.attributes source, c.span = a.span.shift block.offset ∧
      c.site = .attribute a.name ∧ c.line = lineOf block a.span.start := by
  obtain ⟨a, member, made⟩ := List.mem_filterMap.mp found
  split at made
  · obtain rfl := Option.some.inj made
    exact ⟨a, member, rfl, rfl, rfl⟩
  · cases made

theorem scanAttributes_inOrder (source : List Char) :
    (scanAttributes settings block source).Pairwise InOrder := by
  refine List.pairwise_filterMap.mpr
    ((attributes_apart _ source).imp fun {a b} apart c first d second => ?_)
  split at first
  · split at second
    · obtain rfl := Option.some.inj first
      obtain rfl := Option.some.inj second
      simp only [InOrder, plain, Span.shift]
      omega
    · cases second
  · cases first

/-- No two candidates of a component's markup overlap. -/
theorem candidates_apart (settings : Settings) (block : Block) (file : String) :
    (ofBlock settings block file).candidates.Pairwise fun a b =>
      a.span.overlaps b.span = false := by
  have apart {a b : Candidate} (order : InOrder a b) : a.span.overlaps b.span = false :=
    overlaps_eq_false_iff.mpr (.inr order)
  refine List.pairwise_append.mpr ⟨((scanTexts_inOrder _).filter _).imp apart,
    (scanAttributes_inOrder _).imp apart, fun c free a found => ?_⟩
  obtain ⟨-, kept⟩ := List.mem_filter.mp free
  simp only [Bool.not_eq_true', List.any_eq_false] at kept
  exact Bool.eq_false_iff.mpr (kept a found)

/-- A setting with a name of an attribute that does not begin with a character. -/
def Unnamed (settings : Settings) (name : String) : Prop := name ∈ settings.attributes ∧ Hollow name

/-- Where a candidate of the markup of a file stands: in the markup and between two characters of
the file, on the line that the line feeds before it make, with some text, and off the comments. -/
structure Sited (settings : Settings) (content : List Char) (block : Block)
    (c : Candidate) : Prop where
  inside : block.offset ≤ c.span.start ∧ c.span.stop ≤ block.offset + byteLength block.content
  cut : ∃ front mid back, content = front ++ mid ++ back ∧
    c.span = ⟨byteLength front, byteLength front + byteLength mid⟩ ∧ c.line = 1 + lineFeeds front
  filled : c.span.start < c.span.stop ∨ settings.writing.Spaced ∧ c.site = .text ∧ c.text = ""
  /-- Neither end cuts a comment. -/
  uncut : Uncut ((comments block.content).map (·.shift block.offset)) c.span ∨
    ∃ name, c.site = .attribute name ∧ Unnamed settings name
  /-- Neither the first nor the last byte is one of a comment. -/
  clear : Clear ((comments block.content).map (·.shift block.offset)) c.span ∨
    settings.writing.Spaced ∨ ∃ name, c.site = .attribute name ∧ Unnamed settings name

/-- The line of a cut of the block. -/
theorem lineOf_cut {before behind : List Char} (whole : block.content = before ++ behind) :
    lineOf block (byteLength before) = block.startLine + lineFeeds before := by
  have found : lineAt? block.content (byteLength before) = some (lineFeeds before + 1) := by
    rw [lineAt?, whole]
    split
    · rename_i behind_end
      rw [byteLength_append] at behind_end
      cases behind with
      | nil => rw [List.append_nil]
      | cons c behind =>
        have size := c.utf8Size_pos
        rw [byteLength] at behind_end
        omega
    · rw [splitBytes?_append]
      rfl
  rw [lineOf, found, Option.getD_some]
  omega

/-- A block as a part of a file. -/
structure PartOf (block : Block) (content front back : List Char) : Prop where
  whole : content = front ++ block.content ++ back
  offset : block.offset = byteLength front
  startLine : block.startLine = lineFeeds front + 1

theorem partOf_of_blockAt? {content : List Char} {span : Span}
    (found : Component.blockAt? content span = some block) :
    ∃ front back, PartOf block content front back := by
  obtain ⟨⟨front, rest⟩, cut, found⟩ := Option.bind_eq_some_iff.mp found
  obtain ⟨inner, sliced, found⟩ := Option.bind_eq_some_iff.mp found
  obtain rfl := Option.some.inj found
  obtain ⟨before, back, same, start, -⟩ := slice?_eq_some_iff.mp sliced
  rw [start] at cut
  have parts := splitBytes?_append before (inner ++ back)
  rw [← List.append_assoc, ← same, cut] at parts
  obtain ⟨rfl, -⟩ := Prod.mk.inj (Option.some.inj parts)
  exact ⟨front, back, same, start, rfl⟩

/-- A region of a component: its markup or its script. -/
def IsRegion (content : List Char) (block : Block) : Prop :=
  (Component.split content).template = some block ∨
    ∃ script, (Component.split content).script = some script ∧ script.block = block

theorem IsRegion.part {content : List Char} (region : IsRegion content block) :
    ∃ front back, PartOf block content front back := by
  rcases region with found | ⟨script, found, rfl⟩
  · obtain ⟨span, -, found⟩ := Option.bind_eq_some_iff.mp found
    exact partOf_of_blockAt? found
  · obtain ⟨⟨rest, position⟩, -, found⟩ := Option.bind_eq_some_iff.mp found
    simp only at found
    split at found
    · obtain ⟨body, -, found⟩ := Option.bind_eq_some_iff.mp found
      obtain ⟨⟨content, behind⟩, -, found⟩ := Option.bind_eq_some_iff.mp found
      obtain ⟨block, cut, found⟩ := Option.bind_eq_some_iff.mp found
      obtain rfl := Option.some.inj found
      exact partOf_of_blockAt? cut
    · cases found

/-- A candidate on a part of the block is one of the file. -/
theorem PartOf.cut {content front back : List Char} (part : PartOf block content front back)
    {c : Candidate} {span : Span} {source : List Char} (shifted : c.span = span.shift block.offset)
    (sliced : slice? block.content span = some source) (line : c.line = lineOf block span.start) :
    (block.offset ≤ c.span.start ∧ c.span.stop ≤ block.offset + byteLength block.content) ∧
    ∃ front mid back, content = front ++ mid ++ back ∧
      c.span = ⟨byteLength front, byteLength front + byteLength mid⟩ ∧
      c.line = 1 + lineFeeds front := by
  obtain ⟨before, behind, whole, start, stop⟩ := slice?_eq_some_iff.mp sliced
  obtain ⟨rfl, offset, first⟩ := part
  have number : c.line = block.startLine + lineFeeds before := by
    rw [line, start]
    exact lineOf_cut (by rw [whole, List.append_assoc])
  rw [shifted]
  refine ⟨⟨Nat.le_add_right _ _, ?_⟩, front ++ before, source, behind ++ back, ?_, ?_, ?_⟩
  · rw [whole, byteLength_append, byteLength_append]
    simp only [Span.shift]
    omega
  · rw [whole]
    simp
  · rw [Span.shift, start, stop, offset, byteLength_append, Nat.add_assoc]
  · rw [number, first, lineFeeds, lineFeeds, lineFeeds, List.count_append]
    omega

theorem Covers.sited (alike : BlanksAlike settings.writing) {content front back : List Char}
    (part : PartOf block content front back) {c : Candidate} (covers : Covers block c)
    (made : Made settings block (blankComments block.content) c) :
    Sited settings content block c := by
  obtain ⟨start, mid, -, -, same, raw, stands⟩ := covers
  obtain ⟨span, shifted, line⟩ := made.lined
  obtain rfl := Span.shift_inj (same.symm.trans shifted)
  obtain ⟨x, y, blanked, rfl, first, last⟩ := id stands
  obtain ⟨before, source, after, whole, place, length, -⟩ := blanked_part blanked first last
  have sliced : slice? block.content
      ⟨byteLength x, byteLength x + byteLength mid⟩ = some source := by
    rw [whole, ← place, ← length]
    exact slice?_append before source after
  obtain ⟨inside, cut⟩ := part.cut shifted sliced line
  have filled (some_char : mid ≠ []) : c.span.start < c.span.stop := by
    obtain ⟨d, rest, rfl⟩ := List.exists_cons_of_ne_nil some_char
    have size := d.utf8Size_pos
    simp only [shifted, Span.shift, byteLength]
    omega
  have uncut := shifted ▸ stands.uncut.shift block.offset
  rcases made.visible alike with ⟨seen, records, visible⟩ | ⟨spaced, empty⟩
  · obtain rfl : mid = seen := String.ofList_inj.mp (raw.symm.trans records)
    exact ⟨inside, cut, .inl (filled visible.ne_nil), .inl uncut,
      .inl (shifted ▸ (stands.clear visible).shift block.offset)⟩
  · refine ⟨inside, cut, ?_, .inl uncut, .inr (.inl spaced)⟩
    by_cases none : mid = []
    · exact .inr ⟨spaced, empty (by rw [raw, none])⟩
    · exact .inl (filled none)

/-- An attribute that has a name stands between characters of the markup. -/
theorem slice?_of_standsIn {a : Attribute} (stands : a.StandsIn (blankComments block.content))
    (named : ¬Hollow a.name) : ∃ source, slice? block.content a.span = some source := by
  obtain ⟨mid, -, ⟨x, y, blanked, start, first, last⟩, stop⟩ := stands named
  obtain ⟨before, source, after, whole, place, length, -⟩ := blanked_part blanked first last
  exact ⟨source, slice?_eq_some_iff.mpr ⟨before, after, whole, by rw [start, place], by
    rw [stop, start, place, length]⟩⟩

theorem sited_of_mem_scanAttributes (whole : cutsCharacter settings block = false)
    {content front back : List Char} (part : PartOf block content front back) {c : Candidate}
    (found : c ∈ scanAttributes settings block (blankComments block.content)) :
    Sited settings content block c := by
  obtain ⟨a, listed, shifted, site, line⟩ := made_of_mem_scanAttributes found
  obtain ⟨span, source, _, -, -, same, -, sliced, -⟩ := scanAttributes_fromAttribute whole c found
  obtain rfl := Span.shift_inj (shifted.symm.trans same)
  obtain ⟨inside, cut⟩ := part.cut shifted sliced line
  have order := attributes_filled listed
  have filled : c.span.start < c.span.stop := by
    simp only [shifted, Span.shift]
    omega
  by_cases hollow : Hollow a.name
  · have unnamed : ∃ name, c.site = .attribute name ∧ Unnamed settings name :=
      ⟨a.name, site, name_of_mem_attributes listed, hollow⟩
    exact ⟨inside, cut, .inl filled, .inr unnamed, .inr (.inr unnamed)⟩
  · obtain ⟨mid, visible, stands, stop⟩ := attributes_standsIn listed hollow
    have span : a.span = ⟨a.span.start, a.span.start + byteLength mid⟩ := by rw [← stop]
    have clear := (stands.clear visible).shift block.offset
    rw [← span, ← shifted] at clear
    exact ⟨inside, cut, .inl filled, .inl clear.uncut, .inl clear⟩

/-- Where the candidates of the markup of a file stand. -/
theorem sited_of_mem (alike : BlanksAlike settings.writing)
    (whole : cutsCharacter settings block = false) {content : List Char}
    (region : IsRegion content block) :
    ∀ c ∈ (ofBlock settings block file).candidates, Sited settings content block c := by
  obtain ⟨front, back, part⟩ := region.part
  intro c found
  rcases List.mem_append.mp found with found | found
  · obtain ⟨listed, -⟩ := List.mem_filter.mp found
    exact (scanTexts_covers alike c listed).sited alike part (made_of_mem_scanTexts listed)
  · exact sited_of_mem_scanAttributes whole part found

/-- An attribute is cut inside a character only if its name does not begin with one. -/
theorem exists_unnamed_of_cutsCharacter (cuts : cutsCharacter settings block = true) :
    ∃ name, Unnamed settings name := by
  obtain ⟨a, listed, broken⟩ := List.any_eq_true.mp cuts
  refine ⟨a.name, name_of_mem_attributes listed, ?_⟩
  by_contra named
  obtain ⟨source, sliced⟩ := slice?_of_standsIn (attributes_standsIn listed) named
  rw [sliced, Option.isNone_some, Bool.and_false] at broken
  cases broken

end TemplateScan
end Phrasebook
