import Phrasebook.Proofs.Extraction.Apart
import Phrasebook.Proofs.Extraction.Reached
import Phrasebook.Proofs.Extraction.File
import Phrasebook.Proofs.Script.Sound

/-!
The source of literals. The tree of a script says where its literals stand, and the scan of a file
takes their source from there; positions count from behind a byte order mark, but the mark is not
taken off the source.
-/

namespace Phrasebook

open Script Text

namespace Script

variable {text : List Char} {span : Span}

/-- A literal as it is written, with what follows it: a string between two quotes, a string that
the end of the line or of the script cuts off, or a template literal between two backticks. -/
inductive Written : Site → List Char → List Char → Prop
  | closed {q : Char} {body behind : List Char} : q ∈ ['"', '\''] → HeldIn q body →
      Written .literal (q :: body ++ [q]) behind
  | unclosed {q : Char} {body behind : List Char} : q ∈ ['"', '\''] → HeldIn q body →
      (∀ c ∈ behind.head?, c = '\n' ∨ c = '\r') → Written .literal (q :: body) behind
  | escapedEnd {q : Char} {body : List Char} : q ∈ ['"', '\''] → HeldIn q body →
      Written .literal (q :: body ++ ['\\']) []
  | template {inner behind : List Char} :
      Written .templateLiteral ('\x60' :: inner ++ ['\x60']) behind

/-- A literal at a span of a script. -/
def WrittenAt (text : List Char) (span : Span) (site : Site)
    (front literal behind : List Char) : Prop :=
  text = front ++ literal ++ behind ∧ Written site literal behind ∧
    span = ⟨byteLength front, byteLength front + byteLength literal⟩

theorem writtenAt_of_reads {cs : List Char} {site : Site} {a b : Cursor}
    (place : Cursor.Onward ⟨text, 0⟩ a) (reads : a.Reads cs b) (written : Written site cs b.rest) :
    ∃ front, WrittenAt text ⟨a.position, b.position⟩ site front cs b.rest := by
  obtain ⟨front, whole, start⟩ := place
  obtain ⟨rest, stop⟩ := reads
  refine ⟨front, ?_, written, ?_⟩
  · rw [List.append_assoc, ← rest]
    exact whole
  · simp [stop, start]

theorem Quoted.writtenAt (quoted : Quoted text span) :
    ∃ front literal behind, WrittenAt text span .literal front literal behind := by
  obtain ⟨q, quote, cs, a, b, place, reads, ⟨body, held, ends⟩, rfl⟩ := quoted
  have written : Written .literal (q :: cs) b.rest := by
    rcases ends with rfl | ⟨rfl, ended⟩ | ⟨rfl, ended⟩
    · exact .closed quote held
    · exact .unclosed quote held ended
    · rw [ended]
      exact .escapedEnd quote held
  obtain ⟨front, stands⟩ := writtenAt_of_reads place reads written
  exact ⟨front, _, _, stands⟩

theorem Backticked.writtenAt (backticked : Backticked text span) :
    ∃ front literal behind, WrittenAt text span .templateLiteral front literal behind := by
  obtain ⟨inner, a, b, place, reads, rfl⟩ := backticked
  obtain ⟨front, stands⟩ := writtenAt_of_reads place reads .template
  exact ⟨front, _, _, stands⟩

theorem WrittenAt.slice? {site : Site} {front literal behind : List Char}
    (stands : WrittenAt text span site front literal behind) :
    Text.slice? text span = some literal := by
  obtain ⟨rfl, -, rfl⟩ := stands
  exact slice?_append front literal behind

theorem Lies.slice? (lies : Lies text span) : ∃ mid, Text.slice? text span = some mid := by
  obtain ⟨⟨a, ⟨first, cut, start⟩, startAt⟩, ⟨b, ⟨front, later, stop⟩, stopAt⟩, ordered⟩ := lies
  obtain ⟨mid, -, sliced⟩ :=
    slice?_between cut later (by simp only [Nat.zero_add] at start stop; omega)
  obtain rfl : span = ⟨byteLength first, byteLength front⟩ := by
    obtain ⟨p, q⟩ := span
    simp_all
  exact ⟨mid, sliced⟩

end Script

namespace LiteralFinding

variable {text : List Char}

mutual

/-- The places of a sound tree are sound. -/
theorem sound_of_mem_placesOf {path : List Step} :
    ∀ tree : Tree, tree.Sound text → ∀ place ∈ placesOf path tree, place.tree.Sound text
  | .node kind span parts, sound, place, member => by
    rw [placesOf] at member
    rcases List.mem_cons.mp member with rfl | member
    · exact sound
    · exact sound_of_mem_placesIn parts sound.parts place member

theorem sound_of_mem_placesIn : ∀ {layouts} (trees : List Tree), (∀ tree ∈ trees, tree.Sound text) →
    ∀ place ∈ placesIn layouts trees, place.tree.Sound text
  | [], trees, _, place, member => by cases trees <;> cases member
  | .whole _ :: _, [], _, place, member => by cases member
  | .inside _ :: _, [], _, place, member => by cases member
  | .whole path :: layouts, .node kind span parts :: trees, sound, place, member => by
    rw [placesIn] at member
    rcases List.mem_append.mp member with member | member
    · exact sound_of_mem_placesOf _ (sound _ List.mem_cons_self) place member
    · exact sound_of_mem_placesIn trees
        (fun tree m => sound tree (List.mem_cons_of_mem _ m)) place member
  | .inside path :: layouts, .node kind span parts :: trees, sound, place, member => by
    rw [placesIn] at member
    rcases List.mem_append.mp member with member | member
    · exact sound_of_mem_placesIn parts (sound _ List.mem_cons_self).parts place member
    · exact sound_of_mem_placesIn trees
        (fun tree m => sound tree (List.mem_cons_of_mem _ m)) place member

end

/-- The kinds of nodes that are written in quotes. -/
def isString : Kind → Bool
  | .string _ | .moduleSource _ => true
  | _ => false

/-- A place whose literal stands in the text, with the expressions that are taken from it. -/
structure Grounded (text : List Char) (place : Place) : Prop where
  stands : ∃ front literal behind, WrittenAt text place.tree.span
    (siteOf place.tree.kind) front literal behind
  count : (chunksOf place.tree.kind).length = (expressionsOf place.tree).length + 1
  lie : ∀ tree ∈ expressionsOf place.tree, Lies text tree.span

/-- Every literal of a script that is reached stands in its source. -/
theorem grounded_of_reached {settings : Settings} {script : Document}
    (sound : ∀ item ∈ script.items, item.Sound text) {place : Place}
    (member : place ∈ reached settings script) : Grounded text place := by
  obtain ⟨listed, found⟩ := List.mem_filter.mp member
  have sound := sound_of_mem_placesIn script.items sound place listed
  obtain ⟨path, tree⟩ := place
  have literal : tree.kind.isLiteral = true ∧
      (isString tree.kind → (chunksOf tree.kind).length = 1) := by
    have named {free : Bool} {value : Option String}
      (found : (free && value.any settings.writing.occursIn) = true) :
        value.toList.length = 1 := by
      cases value with
      | none => rw [Option.any_none, Bool.and_false] at found; cases found
      | some value => rfl
    unfold Place.isReached at found
    split at found
    · rename_i same
      rw [show tree.kind = _ from same]
      exact ⟨rfl, fun _ => named found⟩
    · rename_i same
      rw [show tree.kind = _ from same]
      exact ⟨rfl, fun _ => named found⟩
    · rename_i same
      rw [show tree.kind = _ from same]
      exact ⟨rfl, fun string => by cases string⟩
    · cases found
  cases sound with
  | plain other => exact absurd literal.1 (Bool.eq_false_iff.mp other)
  | string quoted | source quoted =>
    refine ⟨quoted.writtenAt, literal.2 rfl, fun tree member => ?_⟩
    cases member
  | template backticked count _ lie =>
    exact ⟨backticked.writtenAt, (List.length_map _).trans count, lie⟩

/-- A script without a byte order mark is nowhere cut inside a character. -/
theorem Grounded.not_cut {place : Place} (grounded : Grounded text place) :
    ¬ ScriptScan.Cut text place := by
  rintro ⟨tree, member, missing⟩
  rcases List.mem_cons.mp member with rfl | member
  · obtain ⟨front, literal, behind, stands⟩ := grounded.stands
    rw [stands.slice?] at missing
    cases missing
  · obtain ⟨mid, sliced⟩ := (grounded.lie tree member).slice?
    rw [sliced] at missing
    cases missing

end LiteralFinding

namespace ScriptScan

open LiteralFinding

variable {settings : Settings} {dialect : Dialect} {source : List Char}
  {placement : Placement} {file : String}

/-- The parts of the scan of a script come from literals that are reached. -/
theorem yields_of_scanned {scan : RegionScan}
    (scanned : ofSource settings dialect source placement file = .ok scan) :
    ∃ script, parse dialect source = .ok script ∧ ∃ parts : List RegionScan,
      (∀ part ∈ parts, ∃ place ∈ reached settings script,
        Yields settings source placement file script place part) ∧
      scan.candidates = parts.flatMap (·.candidates) ∧ scan.skips = parts.flatMap (·.skips) := by
  unfold ofSource at scanned
  split at scanned
  · cases scanned
  · rename_i script read
    obtain ⟨parts, yielded, found⟩ :=
      yields_of_scanFindings (settles_ofScript settings script) scanned
    refine ⟨script, read, parts, fun part member => ?_, found⟩
    obtain ⟨i, rfl⟩ := List.mem_iff_get.mp member
    have paired : i < (reached settings script).length :=
      Nat.lt_of_lt_of_eq i.isLt yielded.length_eq.symm
    exact ⟨_, List.get_mem _ ⟨i, paired⟩, (List.forall₂_iff_get.mp yielded).2 i paired i.isLt⟩

/-- A candidate of a script is made of a literal that is reached. -/
theorem yields_of_mem {scan : RegionScan}
    (scanned : ofSource settings dialect source placement file = .ok scan) {c : Candidate}
    (found : c ∈ scan.candidates) :
    ∃ script, parse dialect source = .ok script ∧ ∃ place ∈ reached settings script,
      Yields settings source placement file script place { candidates := [c] } := by
  obtain ⟨script, read, parts, yielded, candidates, -⟩ := yields_of_scanned scanned
  rw [candidates] at found
  obtain ⟨part, member, found⟩ := List.mem_flatMap.mp found
  obtain ⟨place, listed, yields⟩ := yielded part member
  refine ⟨script, read, place, listed, ?_⟩
  have whole := yields
  cases yields with
  | candidate d =>
    obtain rfl := List.mem_singleton.mp found
    exact whole
  | skip => cases found

/-- A skip of a script is of a literal that is reached. -/
theorem yields_of_mem_skips {scan : RegionScan}
    (scanned : ofSource settings dialect source placement file = .ok scan) {skip : Skip}
    (found : skip ∈ scan.skips) :
    ∃ script, parse dialect source = .ok script ∧ ∃ place ∈ reached settings script,
      Yields settings source placement file script place { skips := [skip] } := by
  obtain ⟨script, read, parts, yielded, -, skips⟩ := yields_of_scanned scanned
  rw [skips] at found
  obtain ⟨part, member, found⟩ := List.mem_flatMap.mp found
  obtain ⟨place, listed, yields⟩ := yielded part member
  refine ⟨script, read, place, listed, ?_⟩
  have whole := yields
  cases yields with
  | candidate => cases found
  | skip s =>
    obtain rfl := List.mem_singleton.mp found
    exact whole

/-- A script is cut inside a character only if a byte order mark precedes it. -/
theorem marked_of_misaligned
    (failed : ofSource settings dialect source placement file = .error .misaligned) :
    source.head? = some '\ufeff' ∧ ∃ script, parse dialect source = .ok script ∧
      ∃ place ∈ reached settings script, Cut source place := by
  unfold ofSource at failed
  split at failed
  · cases failed
  · rename_i script read
    obtain ⟨-, place, member, cut⟩ := cut_of_scanFindings (settles_ofScript settings script) failed
    refine ⟨?_, script, read, place, member, cut⟩
    by_contra unmarked
    obtain ⟨same, sound⟩ := sound_of_parse read
    rw [dropByteOrderMark_of_unmarked unmarked] at same
    rw [same] at sound
    exact (grounded_of_reached sound member).not_cut cut

theorem unreadable_of_ofSource {error : SyntaxError}
    (failed : ofSource settings dialect source placement file = .error (.unreadable error)) :
    parse dialect source = .error error := by
  unfold ofSource at failed
  split at failed
  · cases failed
    assumption
  · cases (cut_of_scanFindings (settles_ofScript settings _) failed).1

end ScriptScan

namespace TemplateScan

variable {settings : Settings} {block : Block} {file : String}

/-- No candidate of the markup is a literal of a script. -/
theorem site_of_ofBlock {c : Candidate} (found : c ∈ (ofBlock settings block file).candidates) :
    c.site ≠ .literal ∧ c.site ≠ .templateLiteral := by
  have other {site : Site} (here : c.site = site)
    (apart : site ≠ .literal ∧ site ≠ .templateLiteral) :
      c.site ≠ .literal ∧ c.site ≠ .templateLiteral := by rwa [here]
  rcases List.mem_append.mp found with found | found
  · obtain ⟨listed, -⟩ := List.mem_filter.mp found
    cases made_of_mem_scanTexts listed with
    | text _ _ _ _ site => exact other site (by decide)
    | run found =>
      obtain ⟨run, -, rfl⟩ := List.mem_map.mp found
      exact @other .run rfl (by decide)
    | quoted found =>
      obtain ⟨piece, -, made⟩ := List.mem_filterMap.mp found
      split at made
      · obtain rfl := Option.some.inj made
        exact @other .ternaryBranch rfl (by decide)
      · cases made
  · obtain ⟨a, -, -, site, -⟩ := made_of_mem_scanAttributes found
    exact other site ⟨Site.noConfusion, Site.noConfusion⟩

end TemplateScan

namespace Extraction

open LiteralFinding

/-- A script in a file, and where it begins there. -/
structure ScriptPart where
  dialect : Dialect
  source : List Char
  offset : Nat

/-- The script of a file that is one, or of a component that has one. -/
def scriptPart? : FileKind → List Char → Option ScriptPart
  | .script dialect, content => some ⟨dialect, content, 0⟩
  | .component, content =>
    (Component.split content).script.map fun s => ⟨s.dialect, s.block.content, s.block.offset⟩

variable {settings : Settings} {file : String} {kind : FileKind} {content : List Char}
  {part : ScriptPart}

theorem scriptPart?_content (found : scriptPart? kind content = some part) :
    ∃ front back, content = front ++ part.source ++ back ∧ part.offset = byteLength front := by
  cases kind with
  | script dialect =>
    obtain rfl := Option.some.inj found
    exact ⟨[], [], (List.append_nil _).symm, rfl⟩
  | component =>
    obtain ⟨block, script, rfl⟩ := Option.map_eq_some_iff.mp found
    exact Component.script?_content script

/-- A candidate is made of a literal that is reached in the script of its file, or comes from the
markup. -/
theorem yields_or_markup {scan : RegionScan}
    (scanned : scanFile settings file kind content = .ok scan) {c : Candidate}
    (found : c ∈ scan.candidates) :
    (∃ part, scriptPart? kind content = some part ∧
      ∃ script, parse part.dialect part.source = .ok script ∧ ∃ place ∈ reached settings script,
        ∃ placement : Placement, placement.offset = part.offset ∧ ScriptScan.Yields settings
          part.source placement file script place { candidates := [c] }) ∨
    ∃ block, c ∈ (TemplateScan.ofBlock settings block file).candidates := by
  cases kind with
  | script dialect =>
    obtain ⟨script, read, place, member, yields⟩ := ScriptScan.yields_of_mem scanned found
    exact .inl ⟨⟨dialect, content, 0⟩, rfl, script, read, place, member, _, rfl, yields⟩
  | component =>
    obtain ⟨scripted, marked, rfl, first, second⟩ := scanFile_component scanned
    rcases List.mem_append.mp found with found | found
    · cases held : (Component.split content).script with
      | none =>
        rw [held] at first
        rw [show scripted = {} from first] at found
        cases found
      | some block =>
        rw [held] at first
        obtain ⟨script, read, place, member, yields⟩ := ScriptScan.yields_of_mem first found
        exact .inl ⟨_, Option.map_eq_some_iff.mpr ⟨block, held, rfl⟩, script, read, place,
          member, _, rfl, yields⟩
    · obtain ⟨block, -, -, found⟩ := candidates_of_templateScan second found
      exact .inr ⟨block, found⟩

/-- Why the scan of a file comes to nothing: its script cannot be read, the script is cut inside a
character, or an attribute is. -/
theorem error_of_scanFile {error : ExtractionError}
    (failed : scanFile settings file kind content = .error error) :
    (∃ part, scriptPart? kind content = some part ∧ ∃ placement : Placement,
      ScriptScan.ofSource settings part.dialect part.source placement file = .error error) ∨
    error = .misaligned ∧ ∃ block, TemplateScan.cutsCharacter settings block = true := by
  cases kind with
  | script dialect => exact .inl ⟨⟨dialect, content, 0⟩, rfl, _, failed⟩
  | component =>
    have marked {block : Block} {scripted : RegionScan}
      (failed : (templateScan settings file block >>=
        fun marked => pure (scripted.append marked)) = Except.error error) :
        error = .misaligned ∧ ∃ block, TemplateScan.cutsCharacter settings block = true := by
      rcases error_of_bind failed with failed | ⟨marked, -, failed⟩
      · simp only [templateScan] at failed
        split at failed
        · exact ⟨(Except.error.inj failed).symm, block, ‹_›⟩
        · cases failed
      · cases failed
    simp only [scanFile] at failed
    cases script : (Component.split content).script with
    | none =>
      cases template : (Component.split content).template with
      | none =>
        rw [script, template] at failed
        cases failed
      | some block =>
        rw [script, template] at failed
        exact .inr (marked failed)
    | some scripted =>
      rw [script] at failed
      rcases error_of_bind failed with first | ⟨_, -, failed⟩
      · exact .inl ⟨_, Option.map_eq_some_iff.mpr ⟨scripted, script, rfl⟩, _, first⟩
      · cases template : (Component.split content).template with
        | none =>
          rw [template] at failed
          cases failed
        | some block =>
          rw [template] at failed
          exact .inr (marked failed)

/-- What an occurrence says of a literal of its script: which place of the tree it is, its text,
where the literal stands, and its source, which is the literal itself unless a byte order mark
precedes the script. -/
structure LiteralAt (settings : Settings) (content : List Char) (part : ScriptPart)
    (script : Document) (place : Place) (literal : List Char) (o : Occurrence) : Prop where
  reached : place ∈ reached settings script
  site : o.site = siteOf place.tree.kind
  text : o.text = ScriptScan.phraseOf (chunksOf place.tree.kind) o.captured
  stands : ∃ front behind, WrittenAt (dropByteOrderMark part.source) place.tree.span o.site
    front literal behind
  span : o.span = place.tree.span.shift part.offset
  raw : slice? part.source place.tree.span = some o.raw.toList
  own : part.source.head? ≠ some '\ufeff' → o.raw.toList = literal ∧
    slice? content o.span = some literal

theorem literalAt_of_yields (found : scriptPart? kind content = some part) {script : Document}
    (read : parse part.dialect part.source = .ok script) {place : Place}
    (member : place ∈ reached settings script) {placement : Placement}
    (offset : placement.offset = part.offset) {c : Candidate} (yields : ScriptScan.Yields settings
      part.source placement file script place { candidates := [c] })
    (before : List Candidate) :
    ∃ literal, LiteralAt settings content part script place literal
      (Occurrence.ofCandidate file before c) := by
  obtain ⟨same, sound⟩ := sound_of_parse read
  obtain ⟨front, literal, behind, stands⟩ := (grounded_of_reached sound member).stands
  rw [same] at stands
  cases yields with
  | candidate c expressions reasoned region line site span raw sources captured kind text =>
    have raw : slice? part.source place.tree.span = some c.raw.toList := by
      unfold ScriptScan.sourceAt at raw
      split at raw
      · rename_i cs sliced
        rw [sliced, ← Except.ok.inj raw, String.toList_ofList]
      · cases raw
    have here : WrittenAt (dropByteOrderMark part.source) place.tree.span c.site front
        literal behind := by
      rwa [site]
    refine ⟨literal, member, site, text, ⟨front, behind, here⟩, offset ▸ span, raw,
      fun unmarked => ?_⟩
    rw [dropByteOrderMark_of_unmarked unmarked] at stands
    obtain ⟨before, after, whole, start⟩ := scriptPart?_content found
    refine ⟨Option.some.inj (raw.symm.trans stands.slice?), ?_⟩
    have shifted := @slice?_shift before _ after _ _ stands.slice?
    rw [← whole, ← start, ← offset, ← span] at shifted
    exact shifted

/-- The main statement about the source of literals, for all files and all settings. The extraction
comes to nothing only if the script cannot be read, a byte order mark precedes it, or the name of an
attribute does not begin with a character. Else every occurrence stands between characters of the
file, and one of a literal is of a string or a template literal in the tree of the script, stands
where that is written, from its own quote or backtick to its own, and has this as its source if no
mark precedes the script; a string that is not closed ends with its line. -/
theorem literals_as_written (config : Config) (file : String) (kind : FileKind) (content : String) :
    match ofFile (Settings.ofConfig config) file kind content with
    | .error (.unreadable error) => ∃ part, scriptPart? kind content.toList = some part ∧
        parse part.dialect part.source = .error error
    | .error .misaligned => (∃ part, scriptPart? kind content.toList = some part ∧
        part.source.head? = some '\ufeff') ∨
        ∃ name, TemplateScan.Unnamed (Settings.ofConfig config) name
    | .ok extraction =>
      ∀ o ∈ extraction.occurrences, (∃ mid, slice? content.toList o.span = some mid) ∧
        (o.site = .literal ∨ o.site = .templateLiteral →
          ∃ part, scriptPart? kind content.toList = some part ∧
            ∃ script, parse part.dialect part.source = .ok script ∧
              ∃ place literal, LiteralAt (Settings.ofConfig config) content.toList part script
                place literal o) := by
  cases extracted : ofFile (Settings.ofConfig config) file kind content with
  | ok extraction =>
    intro o member
    refine ⟨slice_of_mem config extracted member, fun literal => ?_⟩
    obtain ⟨scan, scanned, made⟩ := ok_of_bind extracted
    obtain rfl := Except.ok.inj made
    obtain ⟨c, candidate, before, rfl⟩ := Occurrence.mem_number member
    rcases yields_or_markup scanned candidate with
      ⟨part, found, script, read, place, listed, placement, offset, yields⟩ | ⟨block, marked⟩
    · exact ⟨part, found, script, read, place,
        literalAt_of_yields found read listed offset yields before⟩
    · obtain ⟨apart, other⟩ := TemplateScan.site_of_ofBlock marked
      exact (literal.elim apart other).elim
  | error error =>
    rcases error_of_bind extracted with failed | ⟨scan, -, failed⟩
    · rcases error_of_scanFile failed with ⟨part, found, placement, failed⟩ | ⟨rfl, block, cuts⟩
      · cases error with
        | unreadable error => exact ⟨part, found, ScriptScan.unreadable_of_ofSource failed⟩
        | misaligned => exact .inl ⟨part, found, (ScriptScan.marked_of_misaligned failed).1⟩
      · exact .inr (TemplateScan.exists_unnamed_of_cutsCharacter cuts)
    · cases failed

/-- A script behind a byte order mark can be read, but its literal is looked for inside the mark. -/
theorem byte_order_mark_cut :
    (∃ script, parse .javaScript "\ufeffa('你')".toList = .ok script ∧ script.items.length = 1) ∧
      ofFile (Settings.ofConfig {}) "a.js" (.script .javaScript) "\ufeffa('你')" =
        .error .misaligned := by
  refine ⟨ok_of_map_toOption (by decide +kernel), ?_⟩
  have cut : (match ofFile (Settings.ofConfig {}) "a.js" (.script .javaScript) "\ufeffa('你')" with
      | .error error => some error
      | .ok _ => none) = some .misaligned := by decide +kernel
  split at cut
  · rename_i error failed
    rw [failed, Option.some.inj cut]
  · cases cut

end Extraction

end Phrasebook
