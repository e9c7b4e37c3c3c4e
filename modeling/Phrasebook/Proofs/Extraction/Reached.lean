import Phrasebook.Proofs.Extraction.File
import Phrasebook.Proofs.Extraction.Place
import Phrasebook.Proofs.Occurrence.Binding

/-!
The scan of a script, literal by literal. Every literal that is reached gives one candidate or one
skip, in the order of the script, and the rules on the nodes above it say which.
-/

namespace Phrasebook

open Script Text

namespace LiteralFinding

/-- The literals of a script that are to be found, in their order. -/
def reached (settings : Settings) (script : Document) : List Place :=
  (places script).filter (Place.isReached settings)

/-- The findings of a script settle its reached literals one by one. -/
theorem settles_ofScript (settings : Settings) (script : Document) :
    List.Forall₂ (Settles settings script.comments) (reached settings script)
      (ofScript settings script) := by
  refine settles_ofParts settings script.comments script.items (allFit_inside fun tree _ => ?_)
  refine .searched (fun step member => nomatch member) scopeIs_start
    ⟨fun named => ?_, fun named => ?_⟩
  · cases named
  · cases named

end LiteralFinding

namespace ScriptScan

open LiteralFinding

variable (settings : Settings) (source : List Char) (placement : Placement) (file : String)

/-- The line of the file that a node of a script begins in. -/
def lineOf (placement : Placement) (script : Document) (tree : Tree) : Nat :=
  placement.startLine + script.lineAt tree.span.start - 1

/-- What the scan of a script gives for a place: one candidate, or one skip with its reason. -/
inductive Yields (script : Document) (place : Place) : RegionScan → Prop
  | candidate (c : Candidate) (expressions : List String) :
      Reasoned settings script.comments place none →
      c.region = placement.region → c.line = lineOf placement script place.tree →
      c.site = siteOf place.tree.kind → c.span = place.tree.span.shift placement.offset →
      sourceAt source place.tree.span = .ok c.raw →
      List.Forall₂ (fun tree text => sourceAt source tree.span = .ok text)
      (expressionsOf place.tree)
        expressions →
      c.captured = Binding.bind expressions →
      c.kind = (if c.captured.isEmpty then .plain else .interpolated) →
      c.text = phraseOf (chunksOf place.tree.kind) c.captured →
      Yields script place { candidates := [c] }
  | skip (s : Skip) : Reasoned settings script.comments place (some s.reason) →
      s.file = file → s.line = lineOf placement script place.tree →
      (siteOf place.tree.kind = .literal → s.text = String.join (chunksOf place.tree.kind)) →
      (siteOf place.tree.kind = .templateLiteral → sourceAt source place.tree.span = .ok s.text) →
      Yields script place { skips := [s] }

/-- Some source that the scan of a place takes does not lie between characters. -/
def Cut (place : Place) : Prop :=
  ∃ tree ∈ place.tree :: expressionsOf place.tree, slice? source tree.span = none

variable {settings source placement file}

theorem sourceAt_error {span : Span} {error : ExtractionError}
    (failed : sourceAt source span = .error error) :
    error = .misaligned ∧ slice? source span = none := by
  unfold sourceAt at failed
  split at failed
  · cases failed
  · rename_i missing
    exact ⟨(Except.error.inj failed).symm, missing⟩

theorem forall₂_of_mapM_ok {trees : List Tree} {texts : List String}
    (done : trees.mapM (fun tree => sourceAt source tree.span) = .ok texts) :
    List.Forall₂ (fun tree text => sourceAt source tree.span = .ok text) trees texts := by
  induction trees generalizing texts with
  | nil =>
    obtain rfl := Except.ok.inj done
    exact .nil
  | cons tree trees ih =>
    rw [List.mapM_cons] at done
    obtain ⟨text, first, done⟩ := ok_of_bind done
    obtain ⟨rest, others, done⟩ := ok_of_bind done
    obtain rfl := Except.ok.inj done
    exact .cons first (ih others)

theorem exists_of_mapM_error {trees : List Tree} {error : ExtractionError}
    (failed : trees.mapM (fun tree => sourceAt source tree.span) = .error error) :
    error = .misaligned ∧ ∃ tree ∈ trees, slice? source tree.span = none := by
  induction trees with
  | nil => cases failed
  | cons tree trees ih =>
    rw [List.mapM_cons] at failed
    rcases error_of_bind failed with failed | ⟨text, -, failed⟩
    · exact ⟨(sourceAt_error failed).1, tree, List.mem_cons_self, (sourceAt_error failed).2⟩
    · rcases error_of_bind failed with failed | ⟨rest, -, failed⟩
      · obtain ⟨same, tree, member, missing⟩ := ih failed
        exact ⟨same, tree, List.mem_cons_of_mem _ member, missing⟩
      · cases failed

/-- The scan of a finding gives what its place yields. -/
theorem yields_of_scanFinding {script : Document} {place : Place} {finding : LiteralFinding}
    {scan : RegionScan} (settles : Settles settings script.comments place finding)
    (done : scanFinding source placement file script finding = .ok scan) :
    Yields settings source placement file script place scan := by
  obtain ⟨span, site, chunks, expressions, reason⟩ := settles
  unfold scanFinding at done
  simp only at done
  split at done
  · rename_i why left
    obtain ⟨text, recorded, done⟩ := ok_of_bind done
    obtain rfl := Except.ok.inj done
    unfold skippedText at recorded
    rw [left] at reason
    refine .skip ⟨file, _, text, why⟩ reason rfl (by rw [span]; rfl) (fun string => ?_)
      fun template => ?_
    · rw [site, string] at recorded
      rw [← chunks]
      exact (Except.ok.inj recorded).symm
    · rw [site, template] at recorded
      rw [← span]
      exact recorded
  · rename_i left
    obtain ⟨candidate, made, done⟩ := ok_of_bind done
    obtain rfl := Except.ok.inj done
    obtain ⟨raw, sliced, made⟩ := ok_of_bind made
    obtain ⟨texts, captured, made⟩ := ok_of_bind made
    obtain rfl := Except.ok.inj made
    rw [left] at reason
    rw [expressions] at captured
    rw [span] at sliced
    have taken := forall₂_of_mapM_ok captured
    have none : finding.expressions.isEmpty = (Binding.bind texts).isEmpty := by
      rw [expressions, Bool.eq_iff_iff, List.isEmpty_iff_length_eq_zero,
        List.isEmpty_iff_length_eq_zero, Binding.length_bind, taken.length_eq]
    refine .candidate _ texts reason rfl (by rw [span]; rfl) site (by rw [span]) sliced taken rfl
      (by rw [none]) ?_
    rw [chunks]

theorem cut_of_scanFinding {script : Document} {place : Place} {finding : LiteralFinding}
    {error : ExtractionError} (settles : Settles settings script.comments place finding)
    (failed : scanFinding source placement file script finding = .error error) :
    error = .misaligned ∧ Cut source place := by
  have whole (failed : sourceAt source finding.span = .error error) :
      error = .misaligned ∧ Cut source place := by
    obtain ⟨same, missing⟩ := sourceAt_error failed
    exact ⟨same, place.tree, List.mem_cons_self, by rw [← settles.span]; exact missing⟩
  unfold scanFinding at failed
  simp only at failed
  split at failed
  · rcases error_of_bind failed with failed | ⟨text, -, failed⟩
    · unfold skippedText at failed
      split at failed
      · exact whole failed
      · cases failed
    · cases failed
  · rcases error_of_bind failed with failed | ⟨candidate, -, failed⟩
    · rcases error_of_bind failed with failed | ⟨raw, -, failed⟩
      · exact whole failed
      · rcases error_of_bind failed with failed | ⟨texts, -, failed⟩
        · rw [settles.expressions] at failed
          obtain ⟨same, tree, member, missing⟩ := exists_of_mapM_error failed
          exact ⟨same, tree, List.mem_cons_of_mem _ member, missing⟩
        · cases failed
    · cases failed

/-- Findings are scanned one by one. -/
theorem yields_of_scanFindings {script : Document} {places : List Place}
    {findings : List LiteralFinding}
    (settled : List.Forall₂ (Settles settings script.comments) places findings) {scan : RegionScan}
    (done : scanFindings source placement file script findings = .ok scan) :
    ∃ scans, List.Forall₂ (Yields settings source placement file script) places scans ∧
      scan.candidates = scans.flatMap (·.candidates) ∧ scan.skips = scans.flatMap (·.skips) := by
  induction settled generalizing scan with
  | nil =>
    obtain rfl := Except.ok.inj done
    exact ⟨[], .nil, rfl, rfl⟩
  | cons settles _ ih =>
    obtain ⟨head, first, done⟩ := ok_of_bind done
    obtain ⟨rest, others, done⟩ := ok_of_bind done
    obtain rfl := Except.ok.inj done
    obtain ⟨scans, yielded, candidates, skips⟩ := ih others
    refine ⟨head :: scans, .cons (yields_of_scanFinding settles first) yielded, ?_, ?_⟩
    · rw [List.flatMap_cons, ← candidates]
      rfl
    · rw [List.flatMap_cons, ← skips]
      rfl

theorem cut_of_scanFindings {script : Document} {places : List Place}
    {findings : List LiteralFinding} (settled : List.Forall₂ (Settles settings script.comments)
      places findings) {error : ExtractionError}
    (failed : scanFindings source placement file script findings = .error error) :
    error = .misaligned ∧ ∃ place ∈ places, Cut source place := by
  induction settled with
  | nil => cases failed
  | @cons place _ _ _ settles _ ih =>
    rcases error_of_bind failed with failed | ⟨head, -, failed⟩
    · obtain ⟨same, cut⟩ := cut_of_scanFinding settles failed
      exact ⟨same, place, List.mem_cons_self, cut⟩
    · rcases error_of_bind failed with failed | ⟨rest, -, failed⟩
      · obtain ⟨same, place, member, cut⟩ := ih failed
        exact ⟨same, place, List.mem_cons_of_mem _ member, cut⟩
      · cases failed

/-- The scan of a script gives one candidate or one skip for every literal that is reached, in their
order; it fails only where the script cannot be read or the source of such a literal cannot be cut
out. -/
theorem reached_yields (settings : Settings) (dialect : Dialect) (source : List Char)
    (placement : Placement) (file : String) :
    match ofSource settings dialect source placement file with
    | .ok scan => ∃ script scans, parse dialect source = .ok script ∧
        List.Forall₂ (Yields settings source placement file script)
        (reached settings script) scans ∧ scan.candidates = scans.flatMap (·.candidates) ∧
        scan.skips = scans.flatMap (·.skips)
    | .error (.unreadable error) => parse dialect source = .error error
    | .error .misaligned => ∃ script, parse dialect source = .ok script ∧
        ∃ place ∈ reached settings script, Cut source place := by
  have settled := settles_ofScript settings
  cases read : parse dialect source with
  | error error =>
    rw [ofSource, read]
    rfl
  | ok script =>
    have scanned : ofSource settings dialect source placement file =
        scanFindings source placement file script (ofScript settings script) := by
      rw [ofSource, read]
    rw [scanned]
    cases done : scanFindings source placement file script (ofScript settings script) with
    | ok scan =>
      obtain ⟨scans, yielded, found⟩ := yields_of_scanFindings (settled script) done
      exact ⟨script, scans, rfl, yielded, found⟩
    | error error =>
      obtain ⟨rfl, cut⟩ := cut_of_scanFindings (settled script) done
      exact ⟨script, rfl, cut⟩

/-- The types that a call is made with are not searched if it loads a module: an expression that
names a property in them is above nothing that is excluded, and not found. -/
theorem computed_name_not_found :
    ∃ script, parse .typeScript "require<\x7b ['你好']: string \x7d>('./a');".toList = .ok script ∧
      (Settings.ofConfig {}).writing.occursIn "你好" = true ∧
      (∃ place ∈ places script, place.tree.kind = .string (some "你好") ∧
        place.isSpecifier = false ∧ ∀ step ∈ place.path,
          step.excluded (Settings.ofConfig {}) = false) ∧
      ofScript (Settings.ofConfig {}) script = [] :=
  ok_of_mem_toOption (by decide +kernel)

end ScriptScan

end Phrasebook
