import Phrasebook.Proofs.Extraction.Written
import Phrasebook.Proofs.Validation.Announced

/-!
Literals that the extraction leaves alone, in the validation of the same script. The tree of the
script says which these are, and validation only sees lines: it passes such a literal exactly if it
counts a diagnostic call as open there, or finds what introduces the literal on the same line.
-/

namespace Phrasebook.Validation

open Script Text LineState LiteralFinding

variable {rules : CallRules} {front back literal : List Char}

/-- A string on one line, or a template literal without a backtick inside. -/
def Unbroken : List Char → Prop
  | '\x60' :: cs => ∃ inner, HeldIn '\x60' inner ∧ cs = inner ++ ['\x60']
  | cs => '\n' ∉ cs

/-- A literal that the scan comes to in code counts as its first character does. -/
theorem uniform_of_written {site : Site} (written : Written site literal back)
    (unbroken : Unbroken literal) (code : InCode rules front (literal ++ back)) :
    Uniform rules front literal back (.quoted (wrapsAt rules front (literal ++ back))) := by
  have quotes {q : Char} {cs : List Char} (member : q ∈ ['"', '\''])
    (unbroken : Unbroken (q :: cs)) :
      isQuote q = true ∧ '\n' ∉ cs := by
    rcases List.mem_pair.mp member with rfl | rfl <;>
      exact ⟨rfl, fun feed => unbroken (List.mem_cons_of_mem _ feed)⟩
  cases written with
  | closed quote held =>
    obtain ⟨quote, line⟩ := quotes quote unbroken
    exact code.held_concat quote held (.inr fun member => line (List.mem_append_left _ member))
  | unclosed quote held =>
    obtain ⟨quote, line⟩ := quotes quote unbroken
    exact (InCode.held code quote held (.inr line)).1
  | escapedEnd quote held =>
    obtain ⟨quote, line⟩ := quotes quote unbroken
    exact code.held_concat quote held (.inr fun member => line (List.mem_append_left _ member))
  | template =>
    obtain ⟨inner, held, same⟩ := unbroken
    obtain rfl := List.append_cancel_right same
    exact code.held_concat rfl held (.inl rfl)

/-- Nothing is wrapped exactly where no diagnostic call is open and nothing introduces the quotes.
-/
theorem wrapsAt_eq_false_iff {rest : List Char} : wrapsAt rules front rest = false ↔
    depthAt rules front rest = 0 ∧ ¬ Introduces rules (lineFront front) := by
  rw [wrapsAt, opensWrapped, List.reverse_reverse, Bool.or_eq_false_iff,
    ← wraps_iff, Bool.not_eq_true]
  simp [depthAt]

/-- A byte order mark may precede the text that positions count in. -/
theorem exists_append_dropByteOrderMark (source : List Char) :
    ∃ mark, source = mark ++ dropByteOrderMark source := by
  unfold dropByteOrderMark
  split
  · rename_i cs
    exact ⟨['\ufeff'], rfl⟩
  · exact ⟨[], rfl⟩

/-- A literal of a script that is reached and skipped, where it stands in the source of the script.
-/
def SkippedAt (settings : Settings) (dialect : Dialect) (source : List Char)
    (placement : Placement) (file : String) (skip : Skip) (front literal back : List Char) : Prop :=
  ∃ script, parse dialect source = .ok script ∧ ∃ place ∈ reached settings script,
    ScriptScan.Yields settings source placement file script place { skips := [skip] } ∧
    ∃ mark start, source = mark ++ dropByteOrderMark source ∧ front = mark ++ start ∧
      WrittenAt (dropByteOrderMark source) place.tree.span
      (siteOf place.tree.kind) start literal back

variable {settings : Settings} {dialect : Dialect} {source : List Char}
  {placement : Placement} {file : String} {skip : Skip}

theorem SkippedAt.written
    (skipped : SkippedAt settings dialect source placement file skip front literal back) :
    source = front ++ literal ++ back ∧ ∃ site, Written site literal back := by
  obtain ⟨-, -, place, -, -, mark, start, marked, rfl, whole, written, -⟩ := skipped
  refine ⟨?_, _, written⟩
  rw [marked, whole]
  simp

/-- The place of a skipped literal, and the reason by the nodes above it. -/
theorem SkippedAt.reasoned
    (skipped : SkippedAt settings dialect source placement file skip front literal back) :
    ∃ script place, parse dialect source = .ok script ∧ place ∈ reached settings script ∧
      Reasoned settings script.comments place (some skip.reason) := by
  obtain ⟨script, read, place, listed, yields, -⟩ := skipped
  cases yields with
  | skip _ reasoned => exact ⟨script, place, read, listed, reasoned⟩

/-- A step into a call whose callee is a member of this object. -/
def CallsOn (object : String) (step : Step) : Prop :=
  ∃ kind span inner names rest arguments types, step.kind = .call .plain ∧
    step.parts =
      [.node kind span (.node (.identifier object) inner names :: rest), arguments, types] ∧
    (kind = .member .plain ∨ kind = .index .plain)

theorem exists_callsOn {step : Step} (diagnoses : step.diagnoses settings = true) :
    ∃ object ∈ settings.diagnosticObjects, CallsOn object step := by
  obtain ⟨kind, parts, index⟩ := step
  unfold Step.diagnoses at diagnoses
  split at diagnoses
  · rename_i callee arguments types same
    obtain ⟨rfl, rfl, rfl⟩ := Step.mk.inj same
    unfold isDiagnosticCallee at diagnoses
    split at diagnoses
    · exact ⟨_, List.contains_iff_mem.mp diagnoses, _, _, _, _, _, _, _, rfl, rfl, .inl rfl⟩
    · exact ⟨_, List.contains_iff_mem.mp diagnoses, _, _, _, _, _, _, _, rfl, rfl, .inr rfl⟩
    · cases diagnoses
  · cases diagnoses

/-- Every skip of a script stands for a literal of its source. -/
theorem exists_skippedAt {scan : RegionScan}
    (scanned : ScriptScan.ofSource settings dialect source placement file = .ok scan)
    (member : skip ∈ scan.skips) :
    ∃ front literal back, SkippedAt settings dialect source placement file skip front
      literal back := by
  obtain ⟨script, read, place, listed, yields⟩ := ScriptScan.yields_of_mem_skips scanned member
  obtain ⟨same, sound⟩ := sound_of_parse read
  rw [same] at sound
  obtain ⟨start, literal, back, stands⟩ := (grounded_of_reached sound listed).stands
  obtain ⟨mark, marked⟩ := exists_append_dropByteOrderMark source
  exact ⟨mark ++ start, literal, back, script, read, place, listed, yields, mark, start,
    marked, rfl, stands⟩

variable {config : Config} {content : String}

/-- Validation finds a literal that it comes to in code exactly where it looks for text. -/
theorem exists_issue_in_literal_iff {site : Site}
    (whole : content.toList = front ++ literal ++ back) (written : Written site literal back)
    (unbroken : Unbroken literal)
    (code : InCode (CallRules.ofConfig config) front (literal ++ back)) :
    (∃ issue ∈ issues config content, StandsIn front literal back issue) ↔
      depthAt (CallRules.ofConfig config) front (literal ++ back) = 0 ∧
        ¬ Introduces (CallRules.ofConfig config) (lineFront front) ∧
        BeginsIn config.writingSystem front literal back := by
  rw [exists_issue_in_iff whole (uniform_of_written written unbroken code), CharClass.isReported,
    Bool.not_eq_true', wrapsAt_eq_false_iff, and_assoc]

/-- No issue stands in a literal that is announced. -/
theorem Announced.not_reported {site : Site} (whole : content.toList = front ++ literal ++ back)
    (written : Written site literal back) (unbroken : Unbroken literal)
    (announced : Announced (CallRules.ofConfig config) (literal ++ back) front) :
    ∀ issue ∈ issues config content, ¬ StandsIn front literal back issue := by
  intro issue found stands
  obtain ⟨code, wrapped⟩ := announced.wrapsAt
  obtain ⟨outside, plain, -⟩ :=
    (exists_issue_in_literal_iff whole written unbroken code).mp ⟨issue, found, stands⟩
  rw [wrapsAt_eq_false_iff.mpr ⟨outside, plain⟩] at wrapped
  cases wrapped

/-- A literal that is skipped as an argument of a diagnostic call is inside a call on a diagnostic
object. If code in front of the literal calls a member of this object, with the callee on one line,
and does not close the call, then no issue stands in the literal. -/
theorem SkippedAt.argument_not_reported
    (skipped : SkippedAt (Settings.ofConfig config) dialect content.toList placement file skip
      front literal back)
    (reason : skip.reason = .diagnosticCall) (unbroken : Unbroken literal) :
    ∃ object ∈ config.diagnosticObjects,
      (∃ script place, parse dialect content.toList = .ok script ∧
        place ∈ reached (Settings.ofConfig config) script ∧ ∃ step ∈ place.path,
          CallsOn object step) ∧
      ∀ {before callee inside : List Char} {n m : Nat},
        front = before ++ callee ++ ['('] ++ inside →
          Passage (callee ++ '(' :: (inside ++ (literal ++ back))) 0 before n →
        LineState.startsWord (lineFront before).reverse = true → IsMember object callee →
        Passage (literal ++ back) 0 inside m →
        ∀ issue ∈ issues config content, ¬ StandsIn front literal back issue := by
  obtain ⟨script, place, read, listed, reasoned⟩ := skipped.reasoned
  rw [reason] at reasoned
  obtain ⟨-, -, step, above, diagnoses⟩ := reasoned.diagnostic.mp rfl
  obtain ⟨object, known, calls⟩ := exists_callsOn diagnoses
  refine ⟨object, known, ⟨script, place, read, listed, step, above, calls⟩, ?_⟩
  intro before callee inside n m whole outer word member inner
  subst whole
  obtain ⟨here, site, written⟩ := skipped.written
  have named : Callee (CallRules.ofConfig config) callee := member.callee known
  exact (Announced.call outer word named inner).not_reported here written unbroken

/-- A literal that is skipped as the name of a module is one. If code in front of the literal ends
with a word or a call that introduces it, on the line of the literal, then no issue stands in it. -/
theorem SkippedAt.specifier_not_reported
    (skipped : SkippedAt (Settings.ofConfig config) dialect content.toList placement file skip
      front literal back)
    (reason : skip.reason = .moduleSpecifier) (unbroken : Unbroken literal) :
    (∃ script place, parse dialect content.toList = .ok script ∧
      place ∈ reached (Settings.ofConfig config) script ∧ place.isSpecifier = true) ∧
    ∀ {n : Nat}, Passage (literal ++ back) 0 front n →
      Introduces (CallRules.ofConfig config) (lineFront front) →
      ∀ issue ∈ issues config content, ¬ StandsIn front literal back issue := by
  obtain ⟨script, place, read, listed, reasoned⟩ := skipped.reasoned
  rw [reason] at reasoned
  refine ⟨⟨script, place, read, listed, reasoned.specifier.mp rfl⟩, ?_⟩
  intro n passage introduces
  obtain ⟨whole, site, written⟩ := skipped.written
  exact (Announced.introduced passage introduces).not_reported whole written unbroken

/-- A literal of a script that the extraction skips, for whatever reason, in the validation of the
script: an issue stands in it, if the scan comes to it in code, exactly where no diagnostic call is
counted as open, nothing on the line introduces the literal, and a run of the writing system begins
in it. No issue stands in it where it is announced by what precedes it. -/
theorem skipped_reported_iff (config : Config) (dialect : Dialect) (content : String)
    (placement : Placement) (file : String) {scan : RegionScan}
    (scanned : ScriptScan.ofSource (Settings.ofConfig config) dialect content.toList
      placement file = .ok scan)
    {skip : Skip} (member : skip ∈ scan.skips) : ∃ front literal back,
      SkippedAt (Settings.ofConfig config) dialect content.toList placement file skip
        front literal back ∧
      (Unbroken literal →
        (InCode (CallRules.ofConfig config) front (literal ++ back) →
          ((∃ issue ∈ issues config content, StandsIn front literal back issue) ↔
            depthAt (CallRules.ofConfig config) front (literal ++ back) = 0 ∧
              ¬ Introduces (CallRules.ofConfig config) (lineFront front) ∧
              BeginsIn config.writingSystem front literal back)) ∧
        (Announced (CallRules.ofConfig config) (literal ++ back) front →
          ∀ issue ∈ issues config content, ¬ StandsIn front literal back issue)) := by
  obtain ⟨front, literal, back, skipped⟩ := exists_skippedAt scanned member
  obtain ⟨whole, site, written⟩ := skipped.written
  exact ⟨front, literal, back, skipped, fun unbroken =>
    ⟨exists_issue_in_literal_iff whole written unbroken, fun announced =>
      announced.not_reported whole written unbroken⟩⟩

theorem skipped_reported_iff_log : Unbroken "'你'".toList ∧
    Announced (CallRules.ofConfig {}) ("'你'".toList ++ ")".toList) "console.log(".toList ∧
    ∃ scan, ScriptScan.ofSource (Settings.ofConfig {}) .javaScript "console.log('你')".toList
      .wholeFile "a.js" =
        .ok scan ∧
      ∃ skip ∈ scan.skips, skip.reason = .diagnosticCall ∧ ∃ front literal back,
        SkippedAt (Settings.ofConfig {}) .javaScript "console.log('你')".toList .wholeFile "a.js"
          skip front literal back ∧
        (Unbroken literal → (InCode (CallRules.ofConfig {}) front (literal ++ back) →
          ((∃ issue ∈ issues {} "console.log('你')", StandsIn front literal back issue) ↔
            depthAt (CallRules.ofConfig {}) front (literal ++ back) = 0 ∧
              ¬ Introduces (CallRules.ofConfig {}) (lineFront front) ∧
              BeginsIn ({} : Config).writingSystem front literal back)) ∧
          (Announced (CallRules.ofConfig {}) (literal ++ back) front →
            ∀ issue ∈ issues {} "console.log('你')", ¬ StandsIn front literal back issue)) := by
  have blank : Blank [] := fun d member => absurd member List.not_mem_nil
  have callee : Callee (CallRules.ofConfig {})
      ("console".toList ++ ([] ++ '.' :: ([] ++ 'l' :: (['o', 'g'] ++ [])))) :=
    .member "console" (by decide) (List.forall_iff_forall_mem.mp (by decide)) blank blank blank rfl
      (List.forall_iff_forall_mem.mp (by decide)) (by decide)
  obtain ⟨scan, scanned, skips⟩ : ∃ scan, ScriptScan.ofSource (Settings.ofConfig {}) .javaScript
      "console.log('你')".toList .wholeFile "a.js" = .ok scan ∧
        scan.skips = [⟨"a.js", 1, "你", .diagnosticCall⟩] :=
        ok_of_map_toOption (by decide +kernel)
  have member : ⟨"a.js", 1, "你", .diagnosticCall⟩ ∈ scan.skips := skips ▸ List.mem_singleton.mpr rfl
  exact ⟨show '\n' ∉ "'你'".toList by
    decide, .call .nil rfl callee .nil, scan, scanned, _, member, rfl,
    skipped_reported_iff {} .javaScript "console.log('你')" .wholeFile "a.js" scanned member⟩

/-- The callee of a diagnostic call is looked for on one line only: an argument of one that a line
break parts is skipped by the extraction and found by validation. -/
theorem parted_callee_reported : ∃ scan, ScriptScan.ofSource (Settings.ofConfig {}) .javaScript
    "console\n.log('你')".toList .wholeFile "a.js" = .ok scan ∧
      scan.skips = [⟨"a.js", 2, "你", .diagnosticCall⟩] ∧
      ∃ issue ∈ issues {} "console\n.log('你')",
        StandsIn "console\n.log(".toList "'你'".toList ")".toList issue := by
  obtain ⟨scan, scanned, skips⟩ : ∃ scan, ScriptScan.ofSource (Settings.ofConfig {}) .javaScript
      "console\n.log('你')".toList .wholeFile "a.js" = .ok scan ∧
        scan.skips = [⟨"a.js", 2, "你", .diagnosticCall⟩] :=
        ok_of_map_toOption (by decide +kernel)
  have found : ⟨2, 7, "你", ".log('你')", ".log('你')", .error⟩ ∈
      issues {} "console\n.log('你')" := by decide +kernel
  exact ⟨scan, scanned, skips, _, found, ['\''], '你', ['\''], rfl, by decide, rfl, rfl⟩

end Phrasebook.Validation
