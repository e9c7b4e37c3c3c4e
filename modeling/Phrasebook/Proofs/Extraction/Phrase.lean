import Phrasebook.Proofs.Extraction.Written
import Phrasebook.Proofs.Markup.Pieces
import Phrasebook.Proofs.Occurrence.Binding

/-!
What the phrases of occurrences are made of: the static chunks of a literal or of a text, with a
placeholder for each expression between them. Literals are interpolated if an expression is captured
in them, texts of the markup if they have double braces of both kinds.
-/

namespace Phrasebook

open Script Text Phrase

namespace ScriptScan

theorem toList_phraseOf (chunks : List String) (bindings : List Binding) :
    (phraseOf chunks bindings).toList = interleave (chunks.map (·.toList))
      (bindings.map (·.label.toList)) := by
  induction chunks generalizing bindings with
  | nil =>
    cases bindings <;> rfl
  | cons chunk chunks ih =>
    cases bindings with
    | nil =>
      simp [phraseOf, interleave, String.toList_join, List.flatMap_def]
    | cons b bindings =>
      rw [phraseOf]
      simp [interleave, ih, placeholder]

end ScriptScan

namespace TemplateScan

open Markup

variable {settings : Settings} {block : Block} {file : String}

/-- The parts of a text around its expressions. -/
def gaps (chars : List Char) : Nat → List Interpolation → List (List Char)
  | last, i :: is => (slice? chars ⟨last, i.span.start⟩).getD [] :: gaps chars i.span.stop is
  | last, [] => [(slice? chars ⟨last, byteLength chars⟩).getD []]

theorem length_gaps (chars : List Char) (last : Nat) (is : List Interpolation) :
    (gaps chars last is).length = is.length + 1 := by
  induction is generalizing last with
  | nil => rfl
  | cons i is ih => rw [gaps, List.length_cons, ih, List.length_cons]

theorem phraseOf_eq {chars : List Char} {last : Nat} {is : List Interpolation} {bs : List Binding}
    (paired : bs.length = is.length) :
    phraseOf chars last is bs = interleave (gaps chars last is) (bs.map (·.label.toList)) := by
  induction is generalizing last bs with
  | nil =>
    obtain rfl := List.eq_nil_of_length_eq_zero paired
    simp [phraseOf, gaps, interleave]
  | cons i is ih =>
    cases bs with
    | nil => cases paired
    | cons b bs =>
      rw [phraseOf, gaps, ih (Nat.succ.inj paired)]
      simp [interleave, placeholder]

/-- A candidate of the markup that is not a whole text has no placeholders. -/
structure Fragment (c : Candidate) : Prop where
  kind : c.kind = .plain
  site : c.site ≠ .text
  captured : c.captured = []

/-- A whole text without double braces of both kinds has no placeholders. -/
structure Verbatim (c : Candidate) : Prop where
  kind : c.kind = .plain
  site : c.site = .text
  unbraced : ¬ Braced c.raw.toList
  captured : c.captured = []

/-- What is captured in another text that is taken as a whole: all of its expressions. -/
structure Captures (c : Candidate) : Prop where
  kind : c.kind = .interpolated
  site : c.site = .text
  braced : Braced c.raw.toList
  captured : c.captured = Binding.bind
    ((interpolations c.raw.toList).map fun i => String.ofList (trim i.body))
  text : c.text = String.ofList (phraseOf c.raw.toList 0 (interpolations c.raw.toList) c.captured)

theorem fragment_of_mem_scanRuns {piece : Piece} {c : Candidate}
    (found : c ∈ scanRuns settings block piece) : Fragment c := by
  obtain ⟨run, -, rfl⟩ := List.mem_map.mp found
  exact ⟨rfl, Site.noConfusion, rfl⟩

theorem fragment_of_mem_scanQuoted {start : Nat} {chars : List Char} {c : Candidate}
    (found : c ∈ scanQuoted settings block start chars) : Fragment c := by
  obtain ⟨piece, -, made⟩ := List.mem_filterMap.mp found
  split at made
  · obtain rfl := Option.some.inj made
    exact ⟨rfl, Site.noConfusion, rfl⟩
  · cases made

theorem fragment_of_mem_scanChoices {piece : Piece} {last : Nat} {is : List Interpolation} :
    ∀ c ∈ scanChoices settings block piece last is, Fragment c := by
  induction is generalizing last with
  | nil => exact fun c => fragment_of_mem_scanRuns
  | cons i is ih =>
    intro c found
    rcases List.mem_append.mp found with found | found
    · exact (List.mem_append.mp found).elim fragment_of_mem_scanRuns fragment_of_mem_scanQuoted
    · exact ih c found

theorem fragment_of_mem_scanAttributes {source : List Char} {c : Candidate}
    (found : c ∈ scanAttributes settings block source) : Fragment c := by
  obtain ⟨a, -, made⟩ := List.mem_filterMap.mp found
  split at made
  · obtain rfl := Option.some.inj made
    exact ⟨rfl, Site.noConfusion, rfl⟩
  · cases made

theorem kind_of_mem_scanText {piece : Piece} {c : Candidate}
    (found : c ∈ (scanText settings block file piece).candidates) :
    Fragment c ∨ Verbatim c ∨ Captures c := by
  unfold scanText at found
  simp only at found
  split at found
  · rename_i both
    unfold scanInterpolated at found
    simp only at found
    split at found
    · exact .inl (fragment_of_mem_scanChoices c found)
    · split at found
      · obtain rfl := List.mem_singleton.mp found
        refine .inr (.inr ⟨rfl, rfl, ?_, ?_, ?_⟩) <;> simp only [String.toList_ofList]
        · exact braced_iff.mp both
        · rw [List.map_map]
          rfl
      · cases found
  · rename_i either
    split at found
    · exact .inl (fragment_of_mem_scanRuns found)
    · obtain rfl := List.mem_singleton.mp found
      refine .inr (.inl ⟨rfl, rfl, fun braced => either ?_, rfl⟩)
      rw [plain, String.toList_ofList] at braced
      exact braced_iff.mpr braced

/-- A candidate of the markup is a part of a text or of a tag, or a whole text: one without double
braces of both kinds, or one that is recorded with all of its expressions. -/
theorem kind_of_mem_ofBlock {c : Candidate} (found : c ∈ (ofBlock settings block file).candidates) :
    Fragment c ∨ Verbatim c ∨ Captures c := by
  rcases List.mem_append.mp found with found | found
  · obtain ⟨listed, -⟩ := List.mem_filter.mp found
    obtain ⟨piece, -, -, here⟩ := (mem_scanTexts_iff settings block file _).1 c |>.mp listed
    exact kind_of_mem_scanText here
  · exact .inl (fragment_of_mem_scanAttributes found)

/-- A candidate of the markup has no placeholders, or is a whole text with all of its expressions.
-/
theorem captured_or_captures {c : Candidate}
    (found : c ∈ (ofBlock settings block file).candidates) : c.captured = [] ∨ Captures c := by
  rcases kind_of_mem_ofBlock found with fragment | verbatim | captures
  · exact .inl fragment.captured
  · exact .inl verbatim.captured
  · exact .inr captures

end TemplateScan

namespace Extraction

open LiteralFinding

variable {settings : Settings} {file : String} {kind : FileKind}

/-- The static chunks of an occurrence: its whole text if nothing is captured, the parts of a text
of the markup around its expressions, or the text of a string or the chunks of a template literal.
-/
inductive Static (settings : Settings) (kind : FileKind) (content : List Char) (o : Occurrence) :
    List String → Prop
  | whole : o.captured = [] → Static settings kind content o [o.text]
  | markup : o.site = .text → Static settings kind content o
      ((TemplateScan.gaps o.raw.toList 0 (Markup.interpolations o.raw.toList)).map String.ofList)
  | literal {part : ScriptPart} {script : Document} {place : Place} :
      scriptPart? kind content = some part → parse part.dialect part.source = .ok script →
      place ∈ reached settings script → o.site = siteOf place.tree.kind →
      o.span = place.tree.span.shift part.offset →
      Static settings kind content o (chunksOf place.tree.kind)

/-- The phrase of an occurrence: static chunks of it, with its placeholders between them. -/
structure Phrased (settings : Settings) (kind : FileKind) (content : List Char) (o : Occurrence)
    (chunks : List String) : Prop where
  static : Static settings kind content o chunks
  text : o.text.toList = interleave (chunks.map (·.toList)) (o.captured.map (·.label.toList))
  count : chunks.length = o.captured.length + 1
  labels : ∀ b ∈ o.captured, isIdentifier b.label = true

theorem phrased_of_yields {content : List Char} {part : ScriptPart}
    (found : scriptPart? kind content = some part) {script : Document}
    (read : parse part.dialect part.source = .ok script) {place : Place} (member : place ∈
      reached settings script) {placement : Placement} (offset : placement.offset = part.offset)
    {c : Candidate} (yields : ScriptScan.Yields settings part.source placement file script place
      { candidates := [c] })
    (before : List Candidate) :
    ∃ chunks, Phrased settings kind content (Occurrence.ofCandidate file before c) chunks := by
  have grounded := grounded_of_reached (sound_of_parse read).2 member
  cases yields with
  | candidate c expressions reasoned region line site span raw sources captured kind text =>
    refine ⟨_, .literal found read member site (offset ▸ span), ?_, ?_, ?_⟩
    · exact (congrArg String.toList text).trans (ScriptScan.toList_phraseOf _ _)
    · rw [grounded.count, sources.length_eq]
      change _ = c.captured.length + 1
      rw [captured, Binding.length_bind]
    · intro b listed
      rw [show (Occurrence.ofCandidate file before c).captured = _ from captured] at listed
      exact Binding.isIdentifier_of_mem_bind listed

theorem phrased_of_markup {content : List Char} {block : Block} {c : Candidate}
    (found : c ∈ (TemplateScan.ofBlock settings block file).candidates) (before : List Candidate) :
    ∃ chunks, Phrased settings kind content (Occurrence.ofCandidate file before c) chunks := by
  generalize same : Occurrence.ofCandidate file before c = o
  have taken : o.captured = c.captured ∧ o.raw = c.raw ∧ o.text = c.text ∧ o.site = c.site := by
    rw [← same]
    exact ⟨rfl, rfl, rfl, rfl⟩
  rcases TemplateScan.captured_or_captures found with none | captures
  · rw [none] at taken
    refine ⟨_, .whole taken.1, ?_, ?_, ?_⟩
    · rw [taken.1]
      simp [interleave]
    · rw [taken.1]
      rfl
    · rw [taken.1]
      exact fun b listed => absurd listed List.not_mem_nil
  · have paired : c.captured.length = (Markup.interpolations c.raw.toList).length := by
      rw [captures.captured, Binding.length_bind, List.length_map]
    refine ⟨_, .markup (taken.2.2.2.trans captures.site), ?_, ?_, ?_⟩ <;> rw [taken.1]
    · rw [taken.2.1, taken.2.2.1, captures.text, String.toList_ofList,
        TemplateScan.phraseOf_eq paired]
      simp
    · rw [taken.2.1, List.length_map, TemplateScan.length_gaps, paired]
    · intro b listed
      rw [captures.captured] at listed
      exact Binding.isIdentifier_of_mem_bind listed

/-- Every occurrence of a file has a phrase made of static chunks and of its placeholders. -/
theorem phrased_of_mem {content : String} {extraction : Extraction}
    (extracted : ofFile settings file kind content = .ok extraction) {o : Occurrence}
    (member : o ∈ extraction.occurrences) :
    ∃ chunks, Phrased settings kind content.toList o chunks := by
  obtain ⟨scan, scanned, made⟩ := ok_of_bind extracted
  obtain rfl := Except.ok.inj made
  obtain ⟨c, candidate, before, rfl⟩ := Occurrence.mem_number member
  rcases yields_or_markup scanned candidate with
    ⟨part, found, script, read, place, listed, placement, offset, yields⟩ | ⟨block, marked⟩
  · exact phrased_of_yields found read listed offset yields before
  · exact phrased_of_markup marked before

/-- The identifiers in braces that a phrase has are its placeholders and those that its static
chunks have. -/
theorem Phrased.writes_iff {content : List Char} {o : Occurrence} {chunks : List String}
    (phrased : Phrased settings kind content o chunks) {name : String}
    (identifier : isIdentifier name = true) :
    Writes o.text name ↔ name ∈ o.captured.map (·.label) ∨ ∃ chunk ∈ chunks, Writes chunk name := by
  have others : ∀ label ∈ o.captured.map (·.label.toList), Bare label := by
    intro label member
    obtain ⟨b, listed, rfl⟩ := List.mem_map.mp member
    exact bare_of_isIdentifier (phrased.labels b listed)
  have count : (chunks.map (·.toList)).length = (o.captured.map (·.label.toList)).length + 1 := by
    simpa using phrased.count
  rw [Writes, phrased.text, infix_interleave_iff (bare_of_isIdentifier identifier) others count]
  simp [Writes, String.toList_inj]

end Extraction

end Phrasebook
