import Phrasebook.Extraction.File
import Phrasebook.Extraction.Template
import Phrasebook.Proofs.Markup.Pieces
import Phrasebook.Proofs.Occurrence.Location
import Phrasebook.Proofs.Result

/-!
What the occurrences of a file record as their source, and where they stand. A candidate from a text
of a component's markup has its source from the markup with blanked comments, where it is cut off at
edges; one from an attribute has its source from the markup itself. The source of an occurrence is
the text of the file at its span exactly when there is some and no comment lies in it, and every
span begins and ends between characters of the file.
-/

namespace Phrasebook.TemplateScan

open Markup Text

/-- A candidate that was taken from the blanked markup. -/
def Covers (block : Block) (c : Candidate) : Prop :=
  ∃ start mid, c.region = .template ∧ (∀ name, c.site ≠ .attribute name) ∧
    c.span = (Span.mk start (start + byteLength mid)).shift block.offset ∧
    c.raw = String.ofList mid ∧ Stands (blankComments block.content) start mid

variable {settings : Settings} {block : Block} {file : String}

theorem covers_plain {start stop : Nat} {mid : List Char} {site : Site} (text : List Char)
    (stands : Stands (blankComments block.content) start mid)
    (length : stop = start + byteLength mid) (apart : ∀ name, site ≠ .attribute name) :
    Covers block (plain block ⟨start, stop⟩ site text mid) :=
  ⟨start, mid, rfl, apart, by rw [length]; rfl, rfl, stands⟩

theorem scanRuns_covers (alike : BlanksAlike settings.writing) {start : Nat} {chars : List Char}
    (stands : Stands (blankComments block.content) start chars) :
    ∀ c ∈ scanRuns settings block ⟨start, chars⟩, Covers block c := by
  intro c found
  obtain ⟨run, member, rfl⟩ := List.mem_map.mp found
  obtain ⟨mid, -, inner, length⟩ := stands_of_mem_runs alike member
  have sliced : Text.slice? chars run = some mid := by
    have cut := inner.slice?
    rwa [← length] at cut
  have stop : start + run.stop = start + run.start + byteLength mid := by omega
  simp only [sliced, Option.getD_some]
  exact covers_plain mid (stands.trans inner) stop (by simp)

theorem scanQuoted_covers {start : Nat} {chars : List Char}
    (stands : Stands (blankComments block.content) start chars) :
    ∀ c ∈ scanQuoted settings block start chars, Covers block c := by
  intro c found
  obtain ⟨piece, member, made⟩ := List.mem_filterMap.mp found
  obtain ⟨quote, kind, inner⟩ := quotedIn_of_mem_quoted member
  have length : piece.span.stop + 2 = piece.start +
      byteLength (quote :: piece.chars ++ [quote]) := by
    rw [byteLength_quoted kind, Piece.span, Nat.add_assoc]
  have stop : start + piece.span.stop + 2 =
      start + piece.start + byteLength (quote :: piece.chars ++ [quote]) := by omega
  have sliced := inner.slice?
  rw [← length] at sliced
  split at made
  · rw [sliced] at made
    obtain rfl := Option.some.inj made
    exact covers_plain piece.chars (stands.trans inner) stop (by simp)
  · cases made

/-- The expressions of a text and the parts between them are searched where they stand. -/
theorem scanChoices_covers (alike : BlanksAlike settings.writing) {piece : Piece}
    (stands : Stands (blankComments block.content) piece.start piece.chars) {last : Nat}
    {is : List Interpolation} (laid : Laid piece.chars last is) :
    ∀ c ∈ scanChoices settings block piece last is, Covers block c := by
  induction is generalizing last with
  | nil =>
    obtain ⟨rest, inner, length⟩ := laid
    have sliced := inner.slice?
    rw [← length] at sliced
    rw [scanChoices, sliced]
    exact scanRuns_covers alike (stands.trans inner)
  | cons i is ih =>
    obtain ⟨⟨gap, before, start⟩, ⟨whole, inner, stop⟩, rest⟩ := laid
    have first := before.slice?
    have second := inner.slice?
    rw [← start] at first
    rw [← stop] at second
    intro c found
    rw [scanChoices, first, second] at found
    rcases List.mem_append.mp found with found | found
    · rcases List.mem_append.mp found with found | found
      · exact scanRuns_covers alike (stands.trans before) c found
      · exact scanQuoted_covers (stands.trans inner) c found
    · exact ih rest c found

theorem scanInterpolated_covers (alike : BlanksAlike settings.writing) {piece : Piece}
    (stands : Stands (blankComments block.content) piece.start piece.chars) :
    ∀ c ∈ (scanInterpolated settings block file piece).candidates, Covers block c := by
  intro c found
  unfold scanInterpolated at found
  simp only at found
  split at found
  · exact scanChoices_covers alike stands (laid_interpolations piece.chars) c found
  · split at found
    · obtain rfl := List.mem_singleton.mp found
      exact ⟨piece.start, piece.chars, rfl, by simp, rfl, rfl, stands⟩
    · cases found

theorem trimPiece_stands {piece : Piece}
    (stands : Stands (blankComments block.content) piece.start piece.chars) :
    Stands (blankComments block.content) (trimPiece piece).start (trimPiece piece).chars :=
  stands.trans (stands_trim piece.chars)

theorem scanText_covers (alike : BlanksAlike settings.writing) {piece : Piece}
    (stands : Stands (blankComments block.content) piece.start piece.chars) :
    ∀ c ∈ (scanText settings block file piece).candidates, Covers block c := by
  have trimmed := trimPiece_stands stands
  intro c found
  unfold scanText at found
  simp only at found
  split at found
  · exact scanInterpolated_covers alike trimmed c found
  · split at found
    · exact scanRuns_covers alike trimmed c found
    · obtain rfl := List.mem_singleton.mp found
      exact covers_plain _ trimmed rfl (by simp)

theorem scanTexts_covers (alike : BlanksAlike settings.writing) :
    ∀ c ∈ (scanTexts settings block file (blankComments block.content)).candidates,
      Covers block c := by
  unfold scanTexts
  have stands : ∀ piece ∈ (textNodes (blankComments block.content)).filter fun piece =>
      settings.writing.occursIn (String.ofList piece.chars),
      Stands (blankComments block.content) piece.start piece.chars :=
    fun piece member => stands_of_mem_textNodes (List.mem_filter.mp member).1
  generalize (textNodes (blankComments block.content)).filter _ = pieces at stands ⊢
  induction pieces with
  | nil => simp
  | cons piece pieces ih =>
    intro c found
    rcases List.mem_append.mp found with found | found
    · exact scanText_covers alike (stands piece List.mem_cons_self) c found
    · exact ih (fun other member => stands other (List.mem_cons_of_mem _ member)) c found

/-- A candidate that was taken from an attribute. -/
def FromAttribute (block : Block) (c : Candidate) : Prop :=
  ∃ span mid name, c.region = .template ∧ c.site = .attribute name ∧
    c.span = span.shift block.offset ∧ c.raw = String.ofList mid ∧
    Text.slice? block.content span = some mid ∧ mid ≠ []

theorem scanAttributes_fromAttribute (whole : cutsCharacter settings block = false) :
    ∀ c ∈ scanAttributes settings block (blankComments block.content), FromAttribute block c := by
  intro c found
  obtain ⟨a, member, made⟩ := List.mem_filterMap.mp found
  split at made
  · rename_i occurs
    have cut := List.any_eq_false.mp whole a member
    rw [occurs, Bool.true_and] at cut
    obtain ⟨mid, sliced⟩ : ∃ mid, Text.slice? block.content a.span = some mid :=
      Option.ne_none_iff_exists'.mp fun none => cut (by rw [none]; rfl)
    have filled : mid ≠ [] := by
      rintro rfl
      obtain ⟨front, back, -, start, stop⟩ := slice?_eq_some_iff.mp sliced
      have order := attributes_filled member
      rw [start, stop] at order
      exact Nat.lt_irrefl _ order
    rw [sliced] at made
    obtain rfl := Option.some.inj made
    exact ⟨a.span, mid, a.name, rfl, rfl, rfl, rfl, sliced, filled⟩
  · cases made

/-- Every candidate of a component's markup comes from a text or from an attribute. -/
theorem covers_or_fromAttribute (alike : BlanksAlike settings.writing)
    (whole : cutsCharacter settings block = false) {c : Candidate}
    (found : c ∈ (ofBlock settings block file).candidates) :
    Covers block c ∨ FromAttribute block c := by
  rcases List.mem_append.mp found with found | found
  · exact .inl (scanTexts_covers alike c (List.mem_filter.mp found).1)
  · exact .inr (scanAttributes_fromAttribute whole c found)

end Phrasebook.TemplateScan

namespace Phrasebook

open Markup Text

namespace WritingSystem

theorem mem_of_ofName? {text : String} {w : WritingSystem} (found : ofName? text = some w) :
    w ∈ all := by
  rcases Option.or_eq_some_iff.mp found with named | ⟨-, coded⟩
  · exact List.mem_of_find?_eq_some named
  · split at coded
    · cases coded
    · exact List.mem_of_find?_eq_some coded

theorem blanksAlike {w : WritingSystem} (known : w ∈ all) : BlanksAlike w :=
  (by decide +kernel : ∀ w ∈ all, w.has ' ' = w.has '\n') w known

end WritingSystem

theorem Config.blanksAlike (config : Config) : BlanksAlike config.writingSystem := by
  unfold Config.writingSystem
  cases found : WritingSystem.ofName? config.targetScript with
  | none => exact (by decide +kernel : WritingSystem.han.has ' ' = WritingSystem.han.has '\n')
  | some w => exact WritingSystem.blanksAlike (WritingSystem.mem_of_ofName? found)

namespace ScriptScan

variable {source : List Char} {place : Placement} {file : String}

theorem candidateOf_placed {line : Nat} {finding : LiteralFinding} {c : Candidate}
    (made : candidateOf source place line finding = .ok c) :
    c.region = place.region ∧ c.span = finding.span.shift place.offset ∧
      ∃ mid, slice? source finding.span = some mid := by
  obtain ⟨raw, sliced, made⟩ := ok_of_bind made
  obtain ⟨expressions, -, made⟩ := ok_of_bind made
  obtain rfl := Except.ok.inj made
  refine ⟨rfl, rfl, ?_⟩
  unfold sourceAt at sliced
  split at sliced
  · rename_i mid found
    exact ⟨mid, found⟩
  · cases sliced

theorem made_of_scanFinding {script : Script.Document} {finding : LiteralFinding}
    {scan : RegionScan} (scanned : scanFinding source place file script finding = .ok scan) :
    ∀ c ∈ scan.candidates, ∃ line, candidateOf source place line finding = .ok c := by
  unfold scanFinding at scanned
  simp only at scanned
  intro c found
  split at scanned
  · obtain ⟨text, -, scanned⟩ := ok_of_bind scanned
    obtain rfl := Except.ok.inj scanned
    cases found
  · obtain ⟨candidate, made, scanned⟩ := ok_of_bind scanned
    obtain rfl := Except.ok.inj scanned
    obtain rfl := List.mem_singleton.mp found
    exact ⟨_, made⟩

theorem made_of_scanFindings {script : Script.Document} {findings : List LiteralFinding}
    {scan : RegionScan} (scanned : scanFindings source place file script findings = .ok scan) :
    ∀ c ∈ scan.candidates, ∃ finding line, candidateOf source place line finding = .ok c := by
  induction findings generalizing scan with
  | nil =>
    obtain rfl := Except.ok.inj scanned
    intro c found
    cases found
  | cons finding findings ih =>
    rw [scanFindings] at scanned
    obtain ⟨head, first, scanned⟩ := ok_of_bind scanned
    obtain ⟨rest, others, scanned⟩ := ok_of_bind scanned
    obtain rfl := Except.ok.inj scanned
    intro c found
    rcases List.mem_append.mp found with found | found
    · exact ⟨finding, made_of_scanFinding first c found⟩
    · exact ih others c found

/-- Every candidate of a script is made of a literal in it. -/
theorem made_of_ofSource {settings : Settings} {dialect : Script.Dialect} {scan : RegionScan}
    (scanned : ofSource settings dialect source place file = .ok scan) :
    ∀ c ∈ scan.candidates, ∃ finding line, candidateOf source place line finding = .ok c := by
  unfold ofSource at scanned
  split at scanned
  · cases scanned
  · exact made_of_scanFindings scanned

theorem region_of_ofSource {settings : Settings} {dialect : Script.Dialect} {scan : RegionScan}
    (scanned : ofSource settings dialect source place file = .ok scan) :
    ∀ c ∈ scan.candidates, c.region = place.region := by
  intro c found
  obtain ⟨finding, line, made⟩ := made_of_ofSource scanned c found
  exact (candidateOf_placed made).1

end ScriptScan

namespace Component

theorem blockAt?_content {cs : List Char} {span : Span} {block : Block}
    (found : blockAt? cs span = some block) :
    ∃ front back, cs = front ++ block.content ++ back ∧ block.offset = byteLength front := by
  unfold blockAt? at found
  cases cut : splitBytes? span.start cs with
  | none => rw [cut] at found; cases found
  | some parts =>
    cases sliced : slice? cs span with
    | none => rw [cut, sliced] at found; cases found
    | some content =>
      rw [cut, sliced] at found
      obtain rfl := Option.some.inj found
      obtain ⟨front, back, same, start, -⟩ := slice?_eq_some_iff.mp sliced
      exact ⟨front, back, same, start⟩

theorem template?_content {cs : List Char} {block : Block}
    (found : (split cs).template = some block) :
    ∃ front back, cs = front ++ block.content ++ back ∧ block.offset = byteLength front := by
  obtain ⟨span, -, found⟩ := Option.bind_eq_some_iff.mp found
  exact blockAt?_content found

end Component

theorem ofList_ne_empty_iff (cs : List Char) : String.ofList cs ≠ "" ↔ cs ≠ [] :=
  not_congr (@String.ofList_inj cs [])

/-- What a candidate of the markup records of the markup at its span. -/
theorem TemplateScan.candidate_source {settings : Settings} {block : Block} {file : String}
    (alike : BlanksAlike settings.writing) (whole : cutsCharacter settings block = false)
    {c : Candidate} (found : c ∈ (ofBlock settings block file).candidates) :
    ∃ span source, c.region = .template ∧ c.span = span.shift block.offset ∧
      slice? block.content span = some source ∧
      ((source ≠ [] ∧ c.raw = String.ofList source) ↔ c.raw ≠ "" ∧
        ((∃ name, c.site = .attribute name) ∨
          ∀ comment ∈ comments block.content, comment.overlaps span = false)) := by
  rcases covers_or_fromAttribute alike whole found with
    ⟨start, mid, region, apart, span, raw, front, back, same, rfl, first, last⟩ |
    ⟨span, mid, name, region, site, shifted, raw, sliced, filled⟩
  · obtain ⟨before, source, after, whole, place, length, reads⟩ := blanked_part same first last
    refine ⟨_, source, region, span, ?_, ?_⟩
    · rw [whole, ← place, ← length]
      exact slice?_append before source after
    · rw [raw, ofList_ne_empty_iff, String.ofList_inj]
      constructor
      · rintro ⟨filled, rfl⟩
        exact ⟨filled, .inr ((reads filled).mp rfl)⟩
      · rintro ⟨filled, ⟨name, site⟩ | apart_from_comments⟩
        · exact absurd site (apart name)
        · obtain rfl := (reads filled).mpr apart_from_comments
          exact ⟨filled, rfl⟩
  · refine ⟨span, mid, region, shifted, sliced, ?_⟩
    rw [raw, ofList_ne_empty_iff, site]
    exact ⟨fun both => ⟨both.1, .inl ⟨name, rfl⟩⟩, fun both => ⟨both.1, rfl⟩⟩

theorem Span.overlaps_shift (offset : Nat) (a b : Span) :
    (a.shift offset).overlaps (b.shift offset) = a.overlaps b := by
  simp [Span.overlaps, Span.shift]

namespace Extraction

/-- The scan of a part that may be missing. -/
def OfPart {Part : Type} (scanPart : Part → Except ExtractionError RegionScan) (scan : RegionScan) :
    Option Part → Prop
  | some part => scanPart part = .ok scan
  | none => scan = {}

/-- The scan of a component is that of its script and that of its markup. -/
theorem scanFile_component {settings : Settings} {file : String} {content : List Char}
    {scan : RegionScan} (scanned : scanFile settings file .component content = .ok scan) :
    ∃ scripted marked, scan = scripted.append marked ∧
      OfPart (scriptScan settings file) scripted (Component.split content).script ∧
      OfPart (templateScan settings file) marked (Component.split content).template := by
  simp only [scanFile] at scanned
  cases script : (Component.split content).script with
  | none =>
    rw [script] at scanned
    cases template : (Component.split content).template with
    | none =>
      rw [template] at scanned
      exact ⟨{}, {}, (Except.ok.inj scanned).symm, rfl, rfl⟩
    | some markup =>
      rw [template] at scanned
      obtain ⟨scripted, none, scanned⟩ := ok_of_bind scanned
      obtain rfl := Except.ok.inj none
      obtain ⟨marked, second, scanned⟩ := ok_of_bind scanned
      exact ⟨{}, marked, (Except.ok.inj scanned).symm, rfl, second⟩
  | some source =>
    rw [script] at scanned
    obtain ⟨scripted, first, scanned⟩ := ok_of_bind scanned
    cases template : (Component.split content).template with
    | none =>
      rw [template] at scanned
      exact ⟨scripted, {}, (Except.ok.inj scanned).symm, first, rfl⟩
    | some markup =>
      rw [template] at scanned
      obtain ⟨marked, second, scanned⟩ := ok_of_bind scanned
      exact ⟨scripted, marked, (Except.ok.inj scanned).symm, first, second⟩

/-- The candidates of the markup of a component are those of its block. -/
theorem candidates_of_templateScan {settings : Settings} {file : String} {markup : Option Block}
    {scan : RegionScan} (scanned : OfPart (templateScan settings file) scan markup)
    {c : Candidate} (found : c ∈ scan.candidates) :
    ∃ block, markup = some block ∧ TemplateScan.cutsCharacter settings block = false ∧
      c ∈ (TemplateScan.ofBlock settings block file).candidates := by
  cases markup with
  | none =>
    rw [show scan = {} from scanned] at found
    cases found
  | some block =>
    simp only [OfPart, templateScan] at scanned
    split at scanned
    · cases scanned
    · rename_i whole
      obtain rfl := Except.ok.inj scanned
      exact ⟨block, rfl, by simpa using whole, found⟩

/-- A candidate of a component that lies in its markup is one of its block. -/
theorem candidates_of_scanFile {settings : Settings} {file : String} {content : List Char}
    {scan : RegionScan} (scanned : scanFile settings file .component content = .ok scan)
    {c : Candidate} (found : c ∈ scan.candidates) (region : c.region = .template) :
    ∃ block, (Component.split content).template = some block ∧
      TemplateScan.cutsCharacter settings block = false ∧
      c ∈ (TemplateScan.ofBlock settings block file).candidates := by
  obtain ⟨scripted, marked, rfl, first, second⟩ := scanFile_component scanned
  rcases List.mem_append.mp found with found | found
  · cases script : (Component.split content).script with
    | none =>
      rw [script] at first
      rw [show scripted = {} from first] at found
      cases found
    | some source =>
      rw [script] at first
      have placed := ScriptScan.region_of_ofSource first c found
      rw [region] at placed
      cases placed
  · exact candidates_of_templateScan second found

/-- The source that an occurrence of the markup records is the text of the file at its span exactly
when there is some and, except for an attribute, no comment of the markup lies in it. -/
theorem template_raw_eq_source_iff (config : Config) {file content : String}
    {extraction : Extraction}
    (extracted : ofFile (Settings.ofConfig config) file .component content = .ok extraction)
    {o : Occurrence} (found : o ∈ extraction.occurrences) (region : o.region = .template) :
    ∃ block source, (Component.split content.toList).template = some block ∧
      slice? content.toList o.span = some source ∧
      ((source ≠ [] ∧ o.raw = String.ofList source) ↔ o.raw ≠ "" ∧
        ((∃ name, o.site = .attribute name) ∨
          ∀ comment ∈ comments block.content,
            (comment.shift block.offset).overlaps o.span = false)) := by
  obtain ⟨scan, scanned, made⟩ := ok_of_bind extracted
  obtain rfl := Except.ok.inj made
  obtain ⟨c, candidate, before, rfl⟩ := Occurrence.mem_number found
  obtain ⟨block, template, whole, candidate⟩ := candidates_of_scanFile scanned candidate region
  obtain ⟨span, source, -, shifted, sliced, reads⟩ :=
    TemplateScan.candidate_source config.blanksAlike whole candidate
  obtain ⟨front, back, same, offset⟩ := Component.template?_content template
  have shift : (Occurrence.ofCandidate file before c).span = span.shift block.offset := shifted
  refine ⟨block, source, template, ?_, ?_⟩
  · rw [shift, same, offset]
    exact slice?_shift sliced
  · rw [shift]
    simp only [Span.overlaps_shift]
    exact reads

/-- A comment between two characters of a text. -/
private def commented : String := "<template><p>你<!-- x -->好</p></template>"

/-- The recorded source has blanks where the file has the comment. -/
theorem template_raw_blanks_comment :
    ∃ extraction, ofFile (Settings.ofConfig {}) "App.vue" .component commented = .ok extraction ∧
      extraction.occurrences.map (fun o => (o.region, o.raw, slice? commented.toList o.span)) =
        [(.template, "你          好", some "你<!-- x -->好".toList)] :=
  ok_of_map_toOption (by decide +kernel)

/-- A comment behind a paragraph does not touch its text. -/
theorem template_raw_eq_source_iff_beside_comment :
    let content := "<template><p>你好</p><!-- 注 --></template>"
    ∃ extraction, ofFile (Settings.ofConfig {}) "App.vue" .component content = .ok extraction ∧
      extraction.occurrences.length = 1 ∧ ∀ o ∈ extraction.occurrences, o.region = .template ∧
        ∃ source, slice? content.toList o.span = some source ∧ source ≠ [] ∧
          o.raw = String.ofList source := by
  intro content
  let o : Occurrence := ⟨"App.vue::template::line:1", "App.vue", .template, 1, .text, 0, ⟨13, 19⟩,
    .plain, "你好", "你好", []⟩
  obtain ⟨extraction, extracted, only⟩ : ∃ extraction,
      ofFile (Settings.ofConfig {}) "App.vue" .component content = .ok extraction ∧
        extraction.occurrences = [o] := ok_of_map_toOption (by decide +kernel)
  have apart : (Component.split content.toList).template.all (fun block =>
      (comments block.content).all fun c => !(c.shift block.offset).overlaps o.span) = true := by
    decide +kernel
  refine ⟨extraction, extracted, by rw [only]; rfl, fun p found => ?_⟩
  rw [only] at found
  obtain rfl := List.mem_singleton.mp found
  obtain ⟨block, source, template, sliced, reads⟩ :=
    template_raw_eq_source_iff {} extracted (o := o) (by rw [only]; exact found) rfl
  rw [template] at apart
  exact ⟨rfl, source, sliced, reads.mpr ⟨by decide, .inr (by simpa using apart)⟩⟩

end Extraction

namespace ScriptScan

/-- A candidate of a script that is a part of a file. -/
theorem slice_of_ofSource {settings : Settings} {dialect : Script.Dialect}
    {source front back : List Char} {place : Placement} {file : String} {scan : RegionScan}
    (offset : place.offset = byteLength front)
    (scanned : ofSource settings dialect source place file = .ok scan) {c : Candidate}
    (found : c ∈ scan.candidates) : ∃ mid, slice? (front ++ source ++ back) c.span = some mid := by
  obtain ⟨finding, line, made⟩ := made_of_ofSource scanned c found
  obtain ⟨-, shifted, mid, sliced⟩ := candidateOf_placed made
  rw [shifted, offset]
  exact ⟨mid, slice?_shift sliced⟩

end ScriptScan

namespace Component

theorem script?_content {cs : List Char} {script : ScriptBlock}
    (found : (split cs).script = some script) :
    ∃ front back, cs = front ++ script.block.content ++ back ∧
      script.block.offset = byteLength front := by
  obtain ⟨⟨rest, position⟩, -, found⟩ := Option.bind_eq_some_iff.mp found
  simp only at found
  split at found
  · obtain ⟨body, -, found⟩ := Option.bind_eq_some_iff.mp found
    obtain ⟨⟨content, behind⟩, -, found⟩ := Option.bind_eq_some_iff.mp found
    obtain ⟨block, cut, found⟩ := Option.bind_eq_some_iff.mp found
    obtain rfl := Option.some.inj found
    exact blockAt?_content cut
  · cases found

end Component

namespace Extraction

variable {file : String}

theorem slice_of_scriptScan {settings : Settings} {content : List Char} {scan : RegionScan}
    (scanned : OfPart (scriptScan settings file) scan (Component.split content).script)
    {c : Candidate} (found : c ∈ scan.candidates) : ∃ mid, slice? content c.span = some mid := by
  cases script : (Component.split content).script with
  | none =>
    rw [script] at scanned
    rw [show scan = {} from scanned] at found
    cases found
  | some block =>
    rw [script] at scanned
    obtain ⟨front, back, same, offset⟩ := Component.script?_content script
    rw [same]
    exact ScriptScan.slice_of_ofSource offset scanned found

theorem slice_of_templateScan {settings : Settings} (alike : BlanksAlike settings.writing)
    {content : List Char} {scan : RegionScan}
    (scanned : OfPart (templateScan settings file) scan (Component.split content).template)
    {c : Candidate} (found : c ∈ scan.candidates) : ∃ mid, slice? content c.span = some mid := by
  obtain ⟨block, template, whole, found⟩ := candidates_of_templateScan scanned found
  obtain ⟨span, source, -, shifted, sliced, -⟩ := TemplateScan.candidate_source alike whole found
  obtain ⟨front, back, same, offset⟩ := Component.template?_content template
  rw [same, shifted, offset]
  exact ⟨source, slice?_shift sliced⟩

theorem slice_of_scanFile (config : Config) {kind : FileKind} {content : List Char}
    {scan : RegionScan} (scanned : scanFile (Settings.ofConfig config) file kind content = .ok scan)
    {c : Candidate} (found : c ∈ scan.candidates) : ∃ mid, slice? content c.span = some mid := by
  cases kind with
  | script dialect =>
    have whole : ∃ mid, slice? ([] ++ content ++ []) c.span = some mid :=
      ScriptScan.slice_of_ofSource rfl scanned found
    simpa using whole
  | component =>
    obtain ⟨scripted, marked, rfl, first, second⟩ := scanFile_component scanned
    rcases List.mem_append.mp found with found | found
    · exact slice_of_scriptScan first found
    · exact slice_of_templateScan config.blanksAlike second found

/-- Every occurrence of a file stands between characters of it. -/
theorem slice_of_mem (config : Config) {kind : FileKind} {content : String}
    {extraction : Extraction} (extracted : ofFile (Settings.ofConfig config) file kind content =
      .ok extraction) {o : Occurrence}
    (found : o ∈ extraction.occurrences) : ∃ mid, slice? content.toList o.span = some mid := by
  obtain ⟨scan, scanned, made⟩ := ok_of_bind extracted
  obtain rfl := Except.ok.inj made
  obtain ⟨c, candidate, before, rfl⟩ := Occurrence.mem_number found
  exact slice_of_scanFile config scanned candidate

/-- An occurrence of a file is found again by its construct. -/
theorem find?_sameSite {settings : Settings} {kind : FileKind} {content : String}
    {extraction : Extraction} (extracted : ofFile settings file kind content = .ok extraction)
    {o : Occurrence} (found : o ∈ extraction.occurrences) :
    extraction.occurrences.find? (·.sameSite o) = some o := by
  obtain ⟨scan, -, made⟩ := ok_of_bind extracted
  obtain rfl := Except.ok.inj made
  exact Occurrence.find?_sameSite found

end Extraction

end Phrasebook
