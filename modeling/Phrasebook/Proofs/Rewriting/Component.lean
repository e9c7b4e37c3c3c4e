import Phrasebook.Proofs.Extraction.Apart
import Phrasebook.Proofs.Rewriting.Recorded
import Mathlib.Data.List.Pairwise

/-!
Rewriting of a component without a script. The candidates of its markup lie apart, so nothing is
left out when the component has not changed since its snapshot.
-/

namespace Phrasebook

open Markup Text TemplateScan

namespace Span

theorem overlaps_comm (a b : Span) : a.overlaps b = b.overlaps a := by
  simp only [overlaps, Bool.and_comm]

/-- A span that comes earlier does not reach into one that it does not overlap. -/
theorem Earlier.stop_le {a b : Span} {i j : Nat} (earlier : a.Earlier i b j)
    (apart : a.overlaps b = false) (ordered : b.start ≤ b.stop) : a.stop ≤ b.start := by
  have order := before_iff.mp earlier.1
  rcases overlaps_eq_false_iff.mp apart with behind | front
  · omega
  · exact front

end Span

namespace Occurrence

instance : Std.Symm fun a b : Occurrence => a.span.overlaps b.span = false :=
  ⟨fun a b apart => by rwa [Span.overlaps_comm]⟩

theorem spans_numberFrom (file : String) (earlier candidates : List Candidate) :
    (numberFrom file earlier candidates).map (·.span) = candidates.map (·.span) := by
  induction candidates generalizing earlier with
  | nil => rfl
  | cons c candidates ih =>
    rw [numberFrom, List.map_cons, List.map_cons, ih]
    rfl

/-- Occurrences lie apart if the candidates do that are numbered. -/
theorem number_apart {file : String} {candidates : List Candidate}
    (apart : candidates.Pairwise fun a b => a.span.overlaps b.span = false) :
    (number file candidates).Pairwise fun a b => a.span.overlaps b.span = false := by
  have sorted := ((List.mergeSort_perm candidates Candidate.before).pairwise_iff
      (fun {a b} first => by
    rwa [Span.overlaps_comm])).mpr apart
  have spans : (number file candidates).map (·.span) =
      (candidates.mergeSort Candidate.before).map (·.span) :=
    spans_numberFrom file [] _
  have listed :=
    (List.pairwise_map (f := Candidate.span) (R := fun a b => a.overlaps b = false)).mpr sorted
  rw [← spans] at listed
  exact List.pairwise_map.mp listed

end Occurrence

namespace Snapshot

/-- The entries of a file have occurrences of their own. -/
theorem occurrences_byFile_distinct (whole : ProjectExtraction)
    (assignment : Assignment) (time : Instant) (file : String) :
    (((ofExtraction whole assignment time).byFile.lookup file).getD []).Pairwise
      fun a b => a.occurrence ≠ b.occurrence := by
  have keyed : ∀ entry ∈ (ofExtraction whole assignment time).entries,
      entry.1 = entry.2.occurrence.locationKey := by
    intro entry listed
    obtain ⟨o, -, made⟩ := List.mem_filterMap.mp (mem_sortedTable listed)
    obtain ⟨assigned, -, rfl⟩ := Option.map_eq_some_iff.mp made
    rfl
  have rising : Rising (ofExtraction whole assignment time).entries := rising_sortedTable _
  have distinct : (ofExtraction whole assignment time).entries.Pairwise
      fun a b => a.2.occurrence ≠ b.2.occurrence := by
    refine rising.imp_of_mem fun {a b} first second less same => ?_
    rw [keyed a first, keyed b second, same] at less
    exact lt_irrefl _ less
  refine ((lookup_byFile_perm _ file).pairwise_iff fun {a b} => Ne.symm).mpr ?_
  exact List.Pairwise.filter _ (List.pairwise_map (f := Prod.snd).mpr distinct)

end Snapshot

namespace Rewriting

/-- Nothing is left out of a component without a script that has not changed since its snapshot. -/
theorem all_applied_of_scriptless (project : Project) {file content : String}
    (scriptless : (Component.split content.toList).script = none) {extraction : Extraction}
    (extracted :
      Extraction.ofFile (Settings.ofConfig project.config) file .component content = .ok extraction)
    {whole : ProjectExtraction}
    (part : ∀ o ∈ whole.occurrences, o.file = file → o ∈ extraction.occurrences)
    (assignment : Assignment) (time : Instant) :
    ∃ rewrite, rewriteContent project file content .component
        (((Snapshot.ofExtraction whole assignment time).byFile.lookup file).getD []) =
          some rewrite ∧
      ∀ s ∈ rewrite.record.substitutions, s.outcome = .applied := by
  obtain ⟨scan, scanned, made⟩ := ok_of_bind extracted
  obtain rfl := Except.ok.inj made
  obtain ⟨scripted, marked, rfl, first, second⟩ := Extraction.scanFile_component scanned
  rw [scriptless] at first
  obtain rfl : scripted = {} := first
  have apart : marked.candidates.Pairwise fun a b => a.span.overlaps b.span = false := by
    cases template : (Component.split content.toList).template with
    | none =>
      rw [template] at second
      obtain rfl : marked = {} := second
      exact .nil
    | some block =>
      rw [template] at second
      simp only [Extraction.OfPart, Extraction.templateScan] at second
      split at second
      · cases second
      · obtain rfl := Except.ok.inj second
        exact candidates_apart _ block file
  have numbered : (Occurrence.number file marked.candidates).Pairwise fun a b =>
      a.span.overlaps b.span = false := Occurrence.number_apart apart
  have distinct := Snapshot.occurrences_byFile_distinct whole assignment time file
  have placed :
    ∀ entry ∈ ((Snapshot.ofExtraction whole assignment time).byFile.lookup file).getD [],
      entry.occurrence ∈ Occurrence.number file marked.candidates := by
    intro entry member
    obtain ⟨listed, same⟩ := Snapshot.occurrence_of_mem_byFile member
    exact part _ listed same
  obtain ⟨rewrite, rewritten, length, answered⟩ :=
    rewriteContent_recorded project extracted part assignment time (List.Subset.refl _)
  generalize ((Snapshot.ofExtraction whole assignment time).byFile.lookup file).getD [] =
    entries at *
  refine ⟨rewrite, rewritten, fun s member => ?_⟩
  obtain ⟨i, bound, rfl⟩ := List.getElem_of_mem member
  have paired : (entries.zip rewrite.record.substitutions)[i]? =
      some (entries[i], rewrite.record.substitutions[i]) := by
    rw [List.getElem?_eq_getElem (by rw [List.length_zip]; omega), List.getElem_zip]
  obtain ⟨-, -, outcome, overlap⟩ := answered i _ _ paired
  refine outcome.resolve_right fun left => ?_
  obtain ⟨j, other, t, behind, -, earlier, reaches⟩ := overlap.mp left
  obtain ⟨here, inside⟩ := List.getElem?_eq_some_iff.mp behind
  rw [List.length_zip] at here
  rw [List.getElem_zip] at inside
  obtain ⟨rfl, -⟩ := Prod.mk.inj inside
  have different : i ≠ j := by
    rintro rfl
    exact Span.not_earlier_self _ _ earlier
  have occurrences : entries[j].occurrence ≠ entries[i].occurrence := by
    rcases Nat.lt_or_gt_of_ne different with before | behind
    · exact (List.pairwise_iff_getElem.mp distinct i j _ _ before).symm
    · exact List.pairwise_iff_getElem.mp distinct j i _ _ behind
  have here := placed _ (List.getElem_mem (by omega : i < entries.length))
  have free :=
    numbered.forall (placed _ (List.getElem_mem (by omega : j < entries.length))) here occurrences
  obtain ⟨mid, sliced⟩ := Extraction.slice_of_mem project.config extracted here
  obtain ⟨front, back, -, starts, stops⟩ := slice?_eq_some_iff.mp sliced
  exact absurd reaches (Nat.not_lt.mpr (earlier.stop_le free (by omega)))

/-- The main statement about the markup of a component, for all contents and all settings. The
search of a region ends without an answer only if an attribute's name does not begin with a
character; else its candidates do not overlap, and each stands in the region with some text, between
characters of the file and off the comments, on its line of the file; text is missing only in a text
of blanks when the writing system has one. And if the component has no script and has not changed
since its snapshot, every entry is applied. -/
theorem candidates_sited_and_applied (project : Project) (file content : String) :
    (∀ block, IsRegion content.toList block →
      match Extraction.templateScan (Settings.ofConfig project.config) file block with
      | .error _ => ∃ name, Unnamed (Settings.ofConfig project.config) name
      | .ok scan =>
        (scan.candidates.Pairwise fun a b => a.span.overlaps b.span = false) ∧
        ∀ c ∈ scan.candidates, Sited (Settings.ofConfig project.config) content.toList block c) ∧
    ((Component.split content.toList).script = none →
      ∀ extraction,
        Extraction.ofFile (Settings.ofConfig project.config) file .component
          content = .ok extraction →
      ∀ whole : ProjectExtraction,
        (∀ o ∈ whole.occurrences, o.file = file → o ∈ extraction.occurrences) →
      ∀ assignment time, ∃ rewrite, rewriteContent project file content .component
          (((Snapshot.ofExtraction whole assignment time).byFile.lookup file).getD []) =
            some rewrite ∧
        ∀ s ∈ rewrite.record.substitutions, s.outcome = .applied) := by
  refine ⟨fun block region => ?_, fun scriptless extraction extracted whole part assignment time =>
    all_applied_of_scriptless project scriptless extracted part assignment time⟩
  rw [Extraction.templateScan]
  cases cuts : cutsCharacter (Settings.ofConfig project.config) block with
  | true => exact exists_unnamed_of_cutsCharacter cuts
  | false =>
    exact ⟨candidates_apart _ block file, sited_of_mem project.config.blanksAlike cuts region⟩

/-- A component with a text and an attribute beside a comment. -/
private def titled : String := "<template><p title='标题'><!-- 注 -->你好</p></template>"

theorem candidates_sited_and_applied_titled :
    (∃ block scan, IsRegion titled.toList block ∧
      Extraction.templateScan (Settings.ofConfig {}) "App.vue" block = .ok scan ∧
      scan.candidates.map (·.span) = [⟨40, 46⟩, ⟨13, 27⟩] ∧
      ∀ c ∈ scan.candidates, Sited (Settings.ofConfig {}) titled.toList block c) ∧
    ∃ extraction,
      Extraction.ofFile (Settings.ofConfig {}) "App.vue" .component titled = .ok extraction ∧
      ∀ assignment time, ∃ rewrite, rewriteContent
        { root := ⟨"/project"⟩ } "App.vue" titled .component
          (((Snapshot.ofExtraction { occurrences := extraction.occurrences } assignment
            time).byFile.lookup "App.vue").getD []) = some rewrite ∧
        ∀ s ∈ rewrite.record.substitutions, s.outcome = .applied := by
  obtain ⟨located, applied⟩ :=
    candidates_sited_and_applied { root := ⟨"/project"⟩ } "App.vue" titled
  constructor
  · obtain ⟨block, template⟩ : ∃ block, (Component.split titled.toList).template = some block :=
      Option.isSome_iff_exists.mp (by decide +kernel)
    have answers : ((Component.split titled.toList).template.map fun block =>
        (Extraction.templateScan (Settings.ofConfig {}) "App.vue" block).toOption.map
          (·.candidates.map (·.span))) = some (some [⟨40, 46⟩, ⟨13, 27⟩]) := by decide +kernel
    rw [template] at answers
    obtain ⟨scan, scanned, spans⟩ := ok_of_map_toOption (Option.some.inj answers)
    have sited := located block (.inl template)
    rw [scanned] at sited
    exact ⟨block, scan, .inl template, scanned, spans, sited.2⟩
  · obtain ⟨scan, scanned, -⟩ :
      ∃ scan, Extraction.scanFile (Settings.ofConfig {}) "App.vue" .component
        titled.toList = .ok scan ∧ scan.candidates.length = 2 :=
      ok_of_map_toOption (by decide +kernel)
    have extracted : Extraction.ofFile (Settings.ofConfig {}) "App.vue" .component titled =
        .ok ⟨Occurrence.number "App.vue" scan.candidates, scan.skips⟩ := by
      rw [Extraction.ofFile, scanned]
      rfl
    exact ⟨_, extracted, applied (by decide +kernel) _ extracted _ fun o member _ => member⟩

/-- A text of a blank makes a candidate without text if the writing system has the blank. -/
theorem blank_text_without_text :
    ∃ block scan, (Component.split "<template><p> </p></template>".toList).template = some block ∧
      Extraction.templateScan (Settings.ofConfig { targetScript := "Common" }) "App.vue"
        block = .ok scan ∧
      scan.candidates.map (fun c => (c.site, c.text, c.span)) = [(.text, "", ⟨14, 14⟩)] := by
  obtain ⟨block, template⟩ : ∃ block,
      (Component.split "<template><p> </p></template>".toList).template = some block :=
    Option.isSome_iff_exists.mp (by decide +kernel)
  have answers : ((Component.split "<template><p> </p></template>".toList).template.map fun block =>
      (Extraction.templateScan (Settings.ofConfig { targetScript := "Common" }) "App.vue"
        block).toOption.map (·.candidates.map fun c => (c.site, c.text, c.span))) =
        some (some [(.text, "", ⟨14, 14⟩)]) := by
    decide +kernel
  rw [template] at answers
  obtain ⟨scan, scanned, spans⟩ := ok_of_map_toOption (Option.some.inj answers)
  exact ⟨block, scan, template, scanned, spans⟩

end Rewriting
end Phrasebook
