import Phrasebook.Proofs.Rewriting.File
import Phrasebook.Proofs.Text.Table
import Phrasebook.Snapshot.Basic

/-!
Rewriting of a content that has not changed since its snapshot. The group of a file in a snapshot
holds the entries whose occurrence is in it. Every entry is matched with the very occurrence that it
was recorded from, and is left out only where another replacement reaches into it.
-/

namespace Phrasebook.Snapshot

open Text

theorem lookup_addToFile (groups : List (String × List SnapshotEntry)) (entry : SnapshotEntry)
    (file : String) :
    ((addToFile groups entry).lookup file).getD [] =
      (groups.lookup file).getD [] ++ if entry.occurrence.file = file then [entry] else [] := by
  rw [addToFile, lookup_insertSorted]
  by_cases same : file = entry.occurrence.file
  · subst same
    simp
  · simp [same, Ne.symm same]

theorem lookup_foldl_addToFile (entries : List SnapshotEntry)
    (groups : List (String × List SnapshotEntry)) (file : String) :
    ((entries.foldl addToFile groups).lookup file).getD [] =
      (groups.lookup file).getD [] ++ entries.filter fun entry =>
        entry.occurrence.file == file := by
  induction entries generalizing groups with
  | nil => simp
  | cons entry entries ih =>
    rw [List.foldl_cons, ih, lookup_addToFile, List.append_assoc]
    by_cases same : entry.occurrence.file = file <;> simp [same]

/-- The group of a file holds all entries of the file, and no others. -/
theorem lookup_byFile_perm (snapshot : Snapshot) (file : String) :
    ((snapshot.byFile.lookup file).getD []).Perm
      ((snapshot.entries.map (·.2)).filter fun entry => entry.occurrence.file == file) := by
  have grouped := lookup_foldl_addToFile (snapshot.entries.map (·.2)) [] file
  have sorted := lookup_map_entries (fun _ entries => entries.mergeSort
    fun a b : SnapshotEntry => a.occurrence.span.start ≤ b.occurrence.span.start) file
    ((snapshot.entries.map (·.2)).foldl addToFile [])
  rw [byFile, sorted]
  rw [List.lookup_nil, Option.getD_none, List.nil_append] at grouped
  rw [← grouped]
  cases ((snapshot.entries.map (·.2)).foldl addToFile []).lookup file with
  | none => exact .nil
  | some entries => exact List.mergeSort_perm entries _

theorem occurrence_of_mem {whole : ProjectExtraction} {assignment : Assignment} {time : Instant}
    {entry : String × SnapshotEntry}
    (found : entry ∈ (ofExtraction whole assignment time).entries) :
    entry.2.occurrence ∈ whole.occurrences := by
  obtain ⟨o, member, made⟩ := List.mem_filterMap.mp (mem_sortedTable found)
  obtain ⟨assigned, -, rfl⟩ := Option.map_eq_some_iff.mp made
  exact member

/-- An entry of a file's group holds an occurrence that was found in the file. -/
theorem occurrence_of_mem_byFile {whole : ProjectExtraction}
    {assignment : Assignment} {time : Instant} {file : String} {entry : SnapshotEntry}
    (found : entry ∈ ((ofExtraction whole assignment time).byFile.lookup file).getD []) :
    entry.occurrence ∈ whole.occurrences ∧ entry.occurrence.file = file := by
  obtain ⟨listed, same⟩ := List.mem_filter.mp ((lookup_byFile_perm _ file).subset found)
  obtain ⟨keyed, member, rfl⟩ := List.mem_map.mp listed
  exact ⟨occurrence_of_mem member, eq_of_beq same⟩

end Phrasebook.Snapshot

namespace Phrasebook.Rewriting

/-- In the content that a snapshot was taken of, its entries are found where they were recorded, in
any order, and each is replaced unless it starts before the end of one that is replaced and comes
earlier. -/
theorem rewriteContent_recorded (project : Project) {file content : String} {kind : FileKind}
    {extraction : Extraction}
    (extracted :
      Extraction.ofFile (Settings.ofConfig project.config) file kind content = .ok extraction)
    {whole : ProjectExtraction}
    (part : ∀ o ∈ whole.occurrences, o.file = file → o ∈ extraction.occurrences)
    (assignment : Assignment) (time : Instant) {entries : List SnapshotEntry}
    (recorded : entries ⊆
      ((Snapshot.ofExtraction whole assignment time).byFile.lookup file).getD []) :
    ∃ rewrite, rewriteContent project file content kind entries = some rewrite ∧
      rewrite.record.substitutions.length = entries.length ∧
      ∀ (i : Nat) (entry : SnapshotEntry) (s : Substitution),
        (entries.zip rewrite.record.substitutions)[i]? = some (entry, s) →
        find? extraction.occurrences entry = some entry.occurrence ∧
        s = substitutionAt project.config.calls entry entry.occurrence s.outcome ∧
        (s.outcome = .applied ∨ s.outcome = .failed .overlap) ∧
        (s.outcome = .failed .overlap ↔
          ∃ (j : Nat) (other : SnapshotEntry) (t : Substitution),
            (entries.zip rewrite.record.substitutions)[j]? = some (other, t) ∧
            t.outcome = .applied ∧ other.occurrence.span.Earlier j entry.occurrence.span i ∧
            entry.occurrence.span.start < other.occurrence.span.stop) := by
  have matched : ∀ entry ∈ entries, find? extraction.occurrences entry = some entry.occurrence := by
    intro entry member
    obtain ⟨listed, same⟩ := Snapshot.occurrence_of_mem_byFile (recorded member)
    exact Extraction.find?_sameSite extracted (part _ listed same)
  have framed : Framed project file content extraction.occurrences entries _ :=
    framed_rewriteFound project file content fun o found =>
      Extraction.slice_of_mem project.config extracted found
  refine ⟨_, by rw [rewriteContent, extracted], framed.each.length_eq.symm, ?_⟩
  intro i entry s paired
  have held := matched entry (List.of_mem_zip (List.mem_of_getElem? paired)).1
  have answered := List.forall₂_zip framed.each (List.mem_of_getElem? paired)
  refine ⟨held, ?_, ?_, ?_⟩
  · cases answered with
    | found found known =>
      obtain rfl := Option.some.inj (held.symm.trans found)
      rfl
    | gone gone =>
      rw [held] at gone
      cases gone
  · cases answered with
    | found found known => exact known
    | gone gone =>
      rw [held] at gone
      cases gone
  · rw [framed.overlap i entry s entry.occurrence paired held]
    constructor
    · rintro ⟨edit, ⟨other, t, place, answer, applied, found, span, -⟩, earlier, inside⟩
      obtain rfl : other.occurrence = place := Option.some.inj
        ((matched other (List.of_mem_zip (List.mem_of_getElem? answer)).1).symm.trans found)
      rw [span] at earlier inside
      exact ⟨edit.id, other, t, answer, applied, earlier, inside⟩
    · rintro ⟨j, other, t, answer, applied, earlier, inside⟩
      have place := matched other (List.of_mem_zip (List.mem_of_getElem? answer)).1
      exact ⟨⟨other.occurrence.span, t.replacement, j⟩,
        ⟨other, t, other.occurrence, answer, applied, place, rfl, rfl⟩, earlier, inside⟩

/-- A script inside the markup: its literal lies in a text of the markup. -/
private def nested : String := "<template><script>f('你好')</script></template>"

private def outerText : Candidate :=
  ⟨.template, 1, .text, ⟨18, 29⟩, .plain, "f('你好')", "f('你好')", []⟩

private def innerLiteral : Candidate :=
  ⟨.script, 1, .literal, ⟨20, 28⟩, .plain, "你好", "'你好'", []⟩

private def outer : Occurrence := .ofCandidate "App.vue" [] outerText

private def inner : Occurrence := .ofCandidate "App.vue" [outerText] innerLiteral

private def nestedKeys : Assignment where
  entries := [(inner.locationKey, ⟨"Common.inner", []⟩), (outer.locationKey, ⟨"Common.outer", []⟩)]

private def nestedEntries : List SnapshotEntry :=
  [⟨"Common.inner", [], inner⟩, ⟨"Common.outer", [], outer⟩]

/-- The text of the markup is replaced, and the literal in it is left out. -/
theorem rewriteContent_recorded_nested :
    (∃ extraction,
      Extraction.ofFile (Settings.ofConfig {}) "App.vue" .component nested = .ok extraction ∧
        extraction.occurrences = [outer, inner]) ∧
    nestedEntries ⊆ ((Snapshot.ofExtraction { occurrences := [outer, inner] } nestedKeys
      ⟨0⟩).byFile.lookup "App.vue").getD [] ∧
    ∃ rewrite,
      rewriteContent { root := ⟨"/project"⟩ } "App.vue" nested .component
        nestedEntries = some rewrite ∧
      rewrite.record.substitutions.map (·.outcome) = [.failed .overlap, .applied] := by
  obtain ⟨scan, scanned, found⟩ : ∃ scan,
      Extraction.scanFile (Settings.ofConfig {}) "App.vue" .component nested.toList = .ok scan ∧
        scan.candidates = [innerLiteral, outerText] :=
    ok_of_map_toOption (by decide +kernel)
  have sorted : scan.candidates.mergeSort Candidate.before = [outerText, innerLiteral] := by
    rw [found]
    simp [List.mergeSort, Candidate.before, Span.before, innerLiteral, outerText]
  have numbered : Occurrence.number "App.vue" scan.candidates = [outer, inner] := by
    rw [Occurrence.number, sorted]
    rfl
  have extracted : Extraction.ofFile (Settings.ofConfig {}) "App.vue" .component nested =
      .ok ⟨[outer, inner], scan.skips⟩ := by
    rw [Extraction.ofFile, scanned, ← numbered]
    rfl
  have listed : ∀ entry ∈ nestedEntries, entry ∈ ((Snapshot.ofExtraction
      { occurrences := [outer, inner] } nestedKeys ⟨0⟩).entries.map (·.2)).filter
        fun entry => entry.occurrence.file == "App.vue" := by decide +kernel
  have recorded : nestedEntries ⊆ _ := fun entry member =>
    (Snapshot.lookup_byFile_perm _ "App.vue").mem_iff.mpr (listed entry member)
  obtain ⟨rewrite, rewritten, length, matched⟩ := rewriteContent_recorded { root := ⟨"/project"⟩ }
    extracted (fun o member _ => member) nestedKeys ⟨0⟩ recorded
  refine ⟨⟨_, extracted, rfl⟩, recorded, rewrite, rewritten, ?_⟩
  obtain ⟨first, second, two⟩ := List.length_eq_two.mp length
  rw [two] at matched ⊢
  obtain ⟨-, -, -, first_left⟩ := matched 0 _ first rfl
  obtain ⟨-, -, second_known, second_left⟩ := matched 1 _ second rfl
  have applied : second.outcome = .applied := second_known.resolve_right fun failed => by
    obtain ⟨j, other, t, paired, -, earlier, -⟩ := second_left.mp failed
    rcases j with _ | _ | j
    · obtain ⟨rfl, rfl⟩ := Prod.mk.inj (Option.some.inj paired)
      exact absurd earlier.1 (by decide)
    · obtain ⟨rfl, rfl⟩ := Prod.mk.inj (Option.some.inj paired)
      exact Span.not_earlier_self _ _ earlier
    · cases paired
  have left : first.outcome = .failed .overlap :=
    first_left.mpr ⟨1, _, second, rfl, applied, ⟨by decide, by decide⟩, by decide⟩
  rw [List.map_cons, left, List.map_cons, applied]
  rfl

end Phrasebook.Rewriting
