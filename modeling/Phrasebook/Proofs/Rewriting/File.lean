import Phrasebook.Proofs.Extraction.File
import Phrasebook.Proofs.Rewriting.Edit
import Phrasebook.Rewriting.File

/-!
What a rewriting does to a content. Each entry gets one answer, and the edits of the entries that
count as applied are made, apart from each other; besides them, at most one import comes in. A
content that cannot be read stays as it is.
-/

namespace Phrasebook.Rewriting

open Text

/-- What may be recorded for an entry: where an occurrence is found at its site, that one is
replaced or overlaps another; otherwise the entry stands where it was. -/
inductive Answers (calls : CallSpellings) (fresh : List Occurrence) (entry : SnapshotEntry) :
    Substitution → Prop
  | found {place : Occurrence} {outcome : Outcome} (found : find? fresh entry = some place)
      (known : outcome = .applied ∨ outcome = .failed .overlap) :
      Answers calls fresh entry (substitutionAt calls entry place outcome)
  | gone (gone : find? fresh entry = none) :
      Answers calls fresh entry
      (substitutionAt calls entry entry.occurrence (.failed .textNotFound))

/-- An edit for an entry that counts as applied: its replacement goes to the place that was found.
The entries come with what is recorded for them. -/
def AppliedAt (fresh : List Occurrence)
    (answered : List (SnapshotEntry × Substitution)) (edit : Edit) : Prop :=
  ∃ entry s place, answered[edit.id]? = some (entry, s) ∧ s.outcome = .applied ∧
    find? fresh entry = some place ∧ edit.span = place.span ∧ edit.text = s.replacement

section
variable (calls : CallSpellings) (content : List Char) (fresh : List Occurrence)
  (entries : List SnapshotEntry)

/-- The edits for all entries that are found. -/
def foundEdits : List Edit := editsFor fresh (entries.map fun e => (e, locate calls fresh e))

/-- Those of them that are made. -/
def madeEdits : List Edit :=
  (selectEdits content none
    ((foundEdits calls fresh entries).mergeSort fun a b => a.span.before b.span)).1

/-- The numbers of those that are not made. -/
def rejectedIds : List Nat :=
  (selectEdits content none
    ((foundEdits calls fresh entries).mergeSort fun a b => a.span.before b.span)).2

/-- What is recorded for the entries. -/
def answers : List Substitution :=
  markRejected (rejectedIds calls content fresh entries) (entries.map (locate calls fresh))

end

variable {calls : CallSpellings} {content : List Char} {fresh : List Occurrence}
  {entries : List SnapshotEntry} {entry : SnapshotEntry} {place : Occurrence} {s : Substitution}
  {edit : Edit} {i : Nat}

theorem find?_found (found : find? fresh entry = some place) :
    place ∈ fresh ∧ place.sameSite entry.occurrence = true := by
  unfold find? at found
  exact ⟨List.mem_of_find?_eq_some found, by simpa using List.find?_some found⟩

theorem mem_foundEdits_iff : edit ∈ foundEdits calls fresh entries ↔
    ∃ entry place, entries[edit.id]? = some entry ∧ find? fresh entry = some place ∧
      edit.span = place.span ∧
      edit.text = replacement calls place.region place.site entry.key entry.bindings := by
  have located (entry : SnapshotEntry) (place : Occurrence)
    (found : find? fresh entry = some place) :
      (locate calls fresh entry).replacement =
        replacement calls place.region place.site entry.key entry.bindings := by
    rw [locate, found]
    rfl
  constructor
  · intro member
    obtain ⟨⟨⟨entry, s⟩, i⟩, listed, made⟩ := List.mem_filterMap.mp member
    obtain ⟨place, found, rfl⟩ := Option.map_eq_some_iff.mp made
    have listed := List.mem_zipIdx_iff_getElem?.mp listed
    rw [List.getElem?_map] at listed
    obtain ⟨_, held, same⟩ := Option.map_eq_some_iff.mp listed
    obtain ⟨rfl, rfl⟩ := Prod.mk.inj same
    exact ⟨_, place, held, found, rfl, located _ place found⟩
  · rintro ⟨entry, place, held, found, span, text⟩
    refine List.mem_filterMap.mpr ⟨((entry, locate calls fresh entry), edit.id), ?_, ?_⟩
    · rw [List.mem_zipIdx_iff_getElem?, List.getElem?_map, held]
      rfl
    · simp only [found, Option.map_some, located entry place found, ← span, ← text]

/-- The edits are numbered by their entries. -/
theorem foundEdits_numbered : (foundEdits calls fresh entries).Pairwise (·.id < ·.id) := by
  have rising : ((entries.map fun e => (e, locate calls fresh e)).zipIdx).Pairwise (·.2 < ·.2) := by
    refine List.pairwise_map.mp ?_
    rw [List.zipIdx_map_snd]
    exact List.pairwise_lt_range'
  refine List.Pairwise.filterMap _ (fun a b less first one second other => ?_) rising
  obtain ⟨_, -, rfl⟩ := Option.map_eq_some_iff.mp one
  obtain ⟨_, -, rfl⟩ := Option.map_eq_some_iff.mp other
  exact less

theorem mem_foundEdits_of_mem_madeEdits (made : edit ∈ madeEdits calls content fresh entries) :
    edit ∈ foundEdits calls fresh entries :=
  List.mem_mergeSort.mp (selectEdits_sublist.subset made)

theorem mem_rejectedIds_iff : i ∈ rejectedIds calls content fresh entries ↔
    ∃ edit ∈ foundEdits calls fresh entries,
      edit ∉ madeEdits calls content fresh entries ∧ edit.id = i := by
  have distinct : (foundEdits calls fresh entries).Nodup := nodup_of_numbered foundEdits_numbered
  rw [rejectedIds, mem_rejected_iff ((List.mergeSort_perm _ _).nodup_iff.mpr distinct)]
  simp only [List.mem_mergeSort]
  rfl

theorem getElem?_answers : (answers calls content fresh entries)[i]? =
    entries[i]?.map fun entry =>
      if i ∈ rejectedIds calls content fresh entries then
        { locate calls fresh entry with outcome := .failed .overlap }
      else locate calls fresh entry := by
  rw [answers, markRejected, List.getElem?_map, List.getElem?_zipIdx, List.getElem?_map]
  cases entries[i]? with
  | none => rfl
  | some entry => simp

/-- The edit for a place that was found. -/
def editAt (calls : CallSpellings) (entry : SnapshotEntry) (place : Occurrence) (i : Nat) : Edit :=
  ⟨place.span, replacement calls place.region place.site entry.key entry.bindings, i⟩

theorem eq_editAt (held : entries[edit.id]? = some entry) (found : find? fresh entry = some place)
    (member : edit ∈ foundEdits calls fresh entries) : edit = editAt calls entry place edit.id := by
  obtain ⟨entry', place', held', found', span, text⟩ := mem_foundEdits_iff.mp member
  obtain rfl := Option.some.inj (held.symm.trans held')
  obtain rfl := Option.some.inj (found.symm.trans found')
  rw [editAt, ← span, ← text]

theorem answer_of_none (held : entries[i]? = some entry) (gone : find? fresh entry = none) :
    (answers calls content fresh entries)[i]? =
      some (substitutionAt calls entry entry.occurrence (.failed .textNotFound)) := by
  have kept : i ∉ rejectedIds calls content fresh entries := by
    rw [mem_rejectedIds_iff]
    rintro ⟨edit, member, -, rfl⟩
    obtain ⟨entry', place, held', found, -⟩ := mem_foundEdits_iff.mp member
    obtain rfl := Option.some.inj (held.symm.trans held')
    rw [gone] at found
    cases found
  rw [getElem?_answers, held, Option.map_some, if_neg kept, locate, gone]

/-- Where an occurrence is found, the answer tells whether its edit is made. -/
theorem answer_of_some (held : entries[i]? = some entry) (found : find? fresh entry = some place) :
    (editAt calls entry place i ∈ madeEdits calls content fresh entries ∧
      (answers calls content fresh entries)[i]? =
        some (substitutionAt calls entry place .applied)) ∨
    (editAt calls entry place i ∉ madeEdits calls content fresh entries ∧
      (answers calls content fresh entries)[i]? =
        some (substitutionAt calls entry place (.failed .overlap))) := by
  have rejected : i ∈ rejectedIds calls content fresh entries ↔
      editAt calls entry place i ∉ madeEdits calls content fresh entries := by
    rw [mem_rejectedIds_iff]
    constructor
    · rintro ⟨edit, member, left, rfl⟩
      rwa [← eq_editAt held found member]
    · exact fun left => ⟨_, mem_foundEdits_iff.mpr ⟨entry, place, held, found, rfl, rfl⟩, left, rfl⟩
  rw [getElem?_answers, held, Option.map_some, locate, found]
  by_cases made : editAt calls entry place i ∈ madeEdits calls content fresh entries
  · exact .inl ⟨made, by rw [if_neg (mt rejected.mp (not_not.mpr made))]⟩
  · exact .inr ⟨made, by rw [if_pos (rejected.mpr made)]; rfl⟩

theorem answer_of_made (held : entries[i]? = some entry) (found : find? fresh entry = some place)
    (made : editAt calls entry place i ∈ madeEdits calls content fresh entries) :
    (answers calls content fresh entries)[i]? = some (substitutionAt calls entry place .applied) :=
  ((answer_of_some held found).resolve_right fun left => left.1 made).2

theorem answers_each : List.Forall₂ (Answers calls fresh) entries
    (answers calls content fresh entries) := by
  refine List.forall₂_iff_get.mpr ⟨by simp [answers, markRejected], fun i first second => ?_⟩
  have held : entries[i]? = some (entries.get ⟨i, first⟩) := List.getElem?_eq_getElem first
  have answer : (answers calls content fresh entries)[i]? = some (List.get _ ⟨i, second⟩) :=
    List.getElem?_eq_getElem second
  cases found : find? fresh (entries.get ⟨i, first⟩) with
  | none =>
    rw [Option.some.inj (answer.symm.trans (answer_of_none held found))]
    exact .gone found
  | some place =>
    rcases answer_of_some held found with ⟨-, same⟩ | ⟨-, same⟩
    · rw [Option.some.inj (answer.symm.trans same)]
      exact .found found (.inl rfl)
    · rw [Option.some.inj (answer.symm.trans same)]
      exact .found found (.inr rfl)

theorem answer_of_paired
    (paired : (entries.zip (answers calls content fresh entries))[i]? = some (entry, s))
    (found : find? fresh entry = some place) :
    (editAt calls entry place i ∈ madeEdits calls content fresh entries ∧
      s = substitutionAt calls entry place .applied) ∨
    (editAt calls entry place i ∉ madeEdits calls content fresh entries ∧
      s = substitutionAt calls entry place (.failed .overlap)) := by
  have both : entries[i]? = some entry ∧ (answers calls content fresh entries)[i]? = some s :=
    List.getElem?_zip_eq_some.mp paired
  rcases answer_of_some both.1 found with ⟨made, same⟩ | ⟨left, same⟩
  · exact .inl ⟨made, Option.some.inj (both.2.symm.trans same)⟩
  · exact .inr ⟨left, Option.some.inj (both.2.symm.trans same)⟩

/-- The edits that are made are those of the entries that count as applied. -/
theorem mem_madeEdits_iff : edit ∈ madeEdits calls content fresh entries ↔
    AppliedAt fresh (entries.zip (answers calls content fresh entries)) edit := by
  constructor
  · intro made
    have member := mem_foundEdits_of_mem_madeEdits made
    obtain ⟨entry, place, held, found, span, text⟩ := mem_foundEdits_iff.mp member
    rw [eq_editAt held found member] at made
    have answer := answer_of_made held found made
    exact ⟨entry, _, place, List.getElem?_zip_eq_some.mpr ⟨held, answer⟩, rfl, found, span, text⟩
  · rintro ⟨entry, s, place, paired, applied, found, span, text⟩
    rcases answer_of_paired paired found with ⟨made, rfl⟩ | ⟨-, rfl⟩
    · have replaced : edit.text = replacement calls place.region place.site
          entry.key entry.bindings :=
        text
      rwa [editAt, ← span, ← replaced] at made
    · cases applied

/-- Of the occurrences that are found, one is left out exactly if it starts before the end of one
that is replaced and comes earlier. -/
theorem overlap_iff (fit : ∀ o ∈ fresh, ∃ mid, slice? content o.span = some mid)
    (paired : (entries.zip (answers calls content fresh entries))[i]? = some (entry, s))
    (found : find? fresh entry = some place) :
    s.outcome = .failed .overlap ↔
      ∃ edit, AppliedAt fresh (entries.zip (answers calls content fresh entries)) edit ∧
        edit.span.Earlier edit.id place.span i ∧ place.span.start < edit.span.stop := by
  have held : entries[i]? = some entry := (List.getElem?_zip_eq_some.mp paired).1
  have member : editAt calls entry place i ∈ foundEdits calls fresh entries :=
    mem_foundEdits_iff.mpr ⟨entry, place, held, found, rfl, rfl⟩
  have fits : (editAt calls entry place i).fits content = true := by
    obtain ⟨mid, sliced⟩ := fit place (find?_found found).1
    exact fits_of_slice sliced
  have left : s.outcome = .failed .overlap ↔
      editAt calls entry place i ∉ madeEdits calls content fresh entries := by
    rcases answer_of_paired paired found with ⟨made, rfl⟩ | ⟨left, rfl⟩
    · exact ⟨fun failed => (by cases failed), fun left => absurd made left⟩
    · exact ⟨fun _ => left, fun _ => rfl⟩
  rw [left, madeEdits, mem_made_iff foundEdits_numbered member]
  constructor
  · intro blocked
    by_contra none
    refine blocked ⟨fits, fun other made precedes => ?_⟩
    by_contra behind
    exact none ⟨other, mem_madeEdits_iff.mp made, precedes, not_le.mp behind⟩
  · rintro ⟨edit, applied, earlier, inside⟩ ⟨-, clear⟩
    exact absurd (clear edit (mem_madeEdits_iff.mpr applied) earlier) (not_le.mpr inside)

theorem ids_nodup : ((madeEdits calls content fresh entries).map Edit.id).Nodup := by
  have found : ((foundEdits calls fresh entries).map Edit.id).Nodup :=
    List.pairwise_map.mpr (foundEdits_numbered.imp fun less => Nat.ne_of_lt less)
  have sorted := ((List.mergeSort_perm (foundEdits calls fresh entries) fun a b =>
    a.span.before b.span).map Edit.id).nodup_iff.mpr found
  exact sorted.sublist (selectEdits_sublist.map Edit.id)

theorem madeEdits_apart : Apart 0 (madeEdits calls content fresh entries) :=
  show Apart ((none : Option Nat).getD 0) _ from selectEdits_apart

/-- A text with the edits of the entries that count as applied, each made once and apart from the
others. -/
structure Edited (fresh : List Occurrence) (answered : List (SnapshotEntry × Substitution))
    (content : List Char) (edits : List Edit) (body : List Char) : Prop where
  once : (edits.map Edit.id).Nodup
  applied : ∀ edit, edit ∈ edits ↔ AppliedAt fresh answered edit
  apart : edits.Pairwise (·.span.stop ≤ ·.span.start)
  spliced : Spliced 0 content edits body

/-- A statement put in front of a text, behind a first line that begins with `#!`. -/
inductive Prepended (statement : List Char) : List Char → List Char → Prop
  | first {text : List Char} (plain : ¬['#', '!'] <+: text) :
      Prepended statement text (statement ++ text)
  | behind {line rest : List Char} (marked : ['#', '!'] <+: line) (single : '\n' ∉ line) :
      Prepended statement (line ++ '\n' :: rest) (line ++ '\n' :: statement ++ rest)
  | ended {line : List Char} (marked : ['#', '!'] <+: line) (single : '\n' ∉ line) :
      Prepended statement line (line ++ '\n' :: statement)

theorem prepended_insertImport (text : List Char) (name specifier : String) :
    Prepended (importStatement name specifier) text (insertImport text name specifier) := by
  unfold insertImport
  simp only
  split
  · rename_i rest
    have single : '\n' ∉ ('#' :: '!' :: rest).takeWhile (· != '\n') := fun found => by
      simpa using List.mem_takeWhile_imp found
    have marked : ['#', '!'] <+: ('#' :: '!' :: rest).takeWhile (· != '\n') :=
      ⟨rest.takeWhile (· != '\n'), by simp⟩
    have whole := List.takeWhile_append_dropWhile (p := (· != '\n')) (l := '#' :: '!' :: rest)
    have behind := List.head?_dropWhile_not (· != '\n') ('#' :: '!' :: rest)
    generalize ('#' :: '!' :: rest).takeWhile (· != '\n') = line at *
    generalize ('#' :: '!' :: rest).dropWhile (· != '\n') = back at *
    rw [← whole]
    cases back with
    | nil =>
      have nothing : line.drop (line.length + 1) = [] := List.drop_of_length_le (Nat.le_succ _)
      rw [List.append_nil, nothing, List.append_nil]
      exact .ended marked single
    | cons c back =>
      obtain rfl : c = '\n' := by simpa using behind
      have dropped : (line ++ '\n' :: back).drop (line.length + 1) = back :=
        by simp [List.drop_append]
      rw [dropped]
      exact .behind marked single
  · rename_i other
    refine .first fun marked => ?_
    obtain ⟨rest, rfl⟩ := marked
    exact other rest rfl

/-- An import is needed where an occurrence of a script file is replaced. -/
theorem needsImport_iff {substitutions : List Substitution} :
    needsImport entries substitutions = true ↔ ∃ entry s, (entry, s) ∈ entries.zip substitutions ∧
      s.outcome = .applied ∧ entry.occurrence.region = .file := by
  simp [needsImport, Substitution.isApplied]

/-- The import of the name that the calls of a script file need. -/
def importFor (project : Project) (file : String) : List Char :=
  importStatement project.config.calls.moduleBinding
    (importSpecifier project.config.importPath (project.resolve project.config.translationModule)
      (project.root.join ⟨file⟩))

/-- An import comes in where an occurrence of a script file is replaced and the name is not bound.
-/
structure Imported (project : Project) (file : String)
    (answered : List (SnapshotEntry × Substitution)) (body output : List Char)
    (inserted : Bool) : Prop where
  needed : inserted = true ↔
    (∃ entry s, (entry, s) ∈ answered ∧ s.outcome = .applied ∧ entry.occurrence.region = .file) ∧
      bindsName body project.config.calls.moduleBinding = false
  without : inserted = false → output = body
  within : inserted = true → Prepended (importFor project file) body output

/-- What a rewriting does to a content with given occurrences. -/
structure Framed (project : Project) (file : String) (content : String) (fresh : List Occurrence)
    (entries : List SnapshotEntry) (rewrite : FileRewrite) : Prop where
  /-- The entries are answered in their order. -/
  each : List.Forall₂ (Answers project.config.calls fresh) entries rewrite.record.substitutions
  /-- An entry counts as applied only with an occurrence of the same construct. -/
  matched : ∀ entry s, (entry, s) ∈ entries.zip rewrite.record.substitutions →
    s.outcome = .applied → ∃ place ∈ fresh, place.region = entry.occurrence.region ∧
    place.site = entry.occurrence.site ∧
      place.raw = entry.occurrence.raw ∧ place.ordinal = entry.occurrence.ordinal
  /-- An occurrence is left out exactly for one that is replaced, comes earlier and reaches into it.
  -/
  overlap : ∀ i entry s place, (entries.zip rewrite.record.substitutions)[i]? = some (entry, s) →
    find? fresh entry = some place →
      (s.outcome = .failed .overlap ↔
        ∃ edit, AppliedAt fresh (entries.zip rewrite.record.substitutions) edit ∧
          edit.span.Earlier edit.id place.span i ∧ place.span.start < edit.span.stop)
  /-- The edits of the entries that count as applied change the text, and at most an import comes
  in. -/
  text : ∃ edits body output,
    Edited fresh (entries.zip rewrite.record.substitutions) content.toList edits body ∧
    Imported project file (entries.zip rewrite.record.substitutions) body output
      rewrite.record.importInserted ∧
    (rewrite.record.modified = true ↔ output ≠ content.toList) ∧
    rewrite.content = if rewrite.record.modified then some (String.ofList output) else none
  /-- Without an entry that counts as applied, the content stays. -/
  untouched : (∀ s ∈ rewrite.record.substitutions, s.outcome ≠ .applied) →
    rewrite.content = none ∧ rewrite.record.modified = false ∧ rewrite.record.importInserted = false

theorem spliced_madeEdits : Spliced 0 content (madeEdits calls content fresh entries)
    (splice content 0 (madeEdits calls content fresh entries)) := by
  have whole : content = [] ++ content := rfl
  exact splice_spliced whole selectEdits_fits madeEdits_apart

theorem edited_splice :
    Edited fresh (entries.zip (answers calls content fresh entries)) content
      (madeEdits calls content fresh entries)
      (splice content 0 (madeEdits calls content fresh entries)) where
  once := ids_nodup
  applied := fun _ => mem_madeEdits_iff
  apart := madeEdits_apart.pairwise fun edit made => Edit.ordered (selectEdits_fits edit made)
  spliced := spliced_madeEdits

/-- A rewriting makes the edits, puts in the import where it is needed, and compares the texts. -/
theorem exists_rewriteFound (project : Project) (file content : String) (fresh : List Occurrence)
    (entries : List SnapshotEntry) :
    ∃ output inserted,
      Imported project file
        (entries.zip (answers project.config.calls content.toList fresh entries))
          (splice content.toList 0 (madeEdits project.config.calls content.toList fresh entries))
        output inserted ∧
      rewriteFound project file content fresh entries =
        { record := ⟨file, output != content.toList, inserted,
            answers project.config.calls content.toList fresh entries⟩
          content := if output != content.toList then some (String.ofList output) else none } := by
  refine ⟨_, _, ⟨?_, fun without => ?_, fun within => ?_⟩, by
    simp only [rewriteFound, List.map_map]; rfl⟩
  · rw [Bool.and_eq_true, Bool.not_eq_true', ← needsImport_iff]
    rfl
  · exact if_neg (by rw [without]; exact Bool.false_ne_true)
  · rw [if_pos within]
    exact prepended_insertImport _ _ _

theorem not_applied_of_none
    (none : ∀ s ∈ answers calls content fresh entries, s.outcome ≠ .applied) :
    ∀ entry s, (entry, s) ∈ entries.zip (answers calls content fresh entries) →
      s.outcome ≠ .applied :=
  fun _ s member => none s (List.of_mem_zip member).2

theorem madeEdits_of_none (none : ∀ s ∈ answers calls content fresh entries, s.outcome ≠ .applied) :
    madeEdits calls content fresh entries = [] := by
  refine List.eq_nil_iff_forall_not_mem.mpr fun edit made => ?_
  obtain ⟨entry, s, place, paired, applied, -⟩ := mem_madeEdits_iff.mp made
  exact not_applied_of_none none entry s (List.mem_of_getElem? paired) applied

theorem matched_of_applied
    (member : (entry, s) ∈ entries.zip (answers calls content fresh entries))
    (applied : s.outcome = .applied) : ∃ place ∈ fresh, place.sameSite entry.occurrence = true := by
  obtain ⟨i, paired⟩ := List.mem_iff_getElem?.mp member
  obtain ⟨held, answer⟩ : entries[i]? = some entry ∧
      (answers calls content fresh entries)[i]? = some s := List.getElem?_zip_eq_some.mp paired
  cases found : find? fresh entry with
  | none =>
    obtain rfl := Option.some.inj (answer.symm.trans (answer_of_none held found))
    cases applied
  | some place => exact ⟨place, find?_found found⟩

theorem framed_rewriteFound (project : Project) (file content : String)
    (fit : ∀ o ∈ fresh, ∃ mid, slice? content.toList o.span = some mid) :
    Framed project file content fresh entries
      (rewriteFound project file content fresh entries) := by
  obtain ⟨output, inserted, imported, made⟩ :=
    exists_rewriteFound project file content fresh entries
  rw [made]
  refine ⟨answers_each, fun entry s member applied => ?_, fun i entry s place => overlap_iff fit,
    ⟨_, _, output, edited_splice, imported, bne_iff_ne, rfl⟩, fun none => ?_⟩
  · obtain ⟨place, member, same⟩ := matched_of_applied member applied
    exact ⟨place, member, Occurrence.sameSite_iff.mp same⟩
  · have needless : inserted = false := Bool.eq_false_iff.mpr fun needed => by
      obtain ⟨⟨entry, s, member, applied, -⟩, -⟩ := imported.needed.mp needed
      exact not_applied_of_none none entry s member applied
    have same : output = content.toList := by
      rw [imported.without needless, madeEdits_of_none none, splice]
    simp [same, needless]

/-- What a rewriting does, whatever the content and the entries are. It has no answer only where a
literal or an attribute is cut inside a character. -/
theorem rewriteContent_frame (project : Project) (file content : String) (kind : FileKind)
    (entries : List SnapshotEntry) :
    match Extraction.ofFile (Settings.ofConfig project.config) file kind content with
    | .ok extraction => ∃ rewrite, rewriteContent project file content kind entries = some rewrite ∧
        Framed project file content extraction.occurrences entries rewrite
    | .error .misaligned => rewriteContent project file content kind entries = none
    | .error (.unreadable error) => ∃ rewrite,
        rewriteContent project file content kind entries = some rewrite ∧
        rewrite.record.substitutions = entries.map (fun entry =>
          substitutionAt project.config.calls entry entry.occurrence
            (.failed (.unreadable ((ExtractionError.unreadable error).message file)))) ∧
        rewrite.content = none ∧ rewrite.record.modified = false ∧
        rewrite.record.importInserted = false := by
  rw [rewriteContent]
  cases extracted : Extraction.ofFile (Settings.ofConfig project.config) file kind content with
  | ok extraction =>
    exact ⟨_, rfl, framed_rewriteFound project file content fun o found =>
      Extraction.slice_of_mem project.config extracted found⟩
  | error error =>
    cases error with
    | unreadable error => exact ⟨_, rfl, rfl, rfl, rfl, rfl⟩
    | misaligned => rfl

/-- Positions in a script that begins with a byte order mark count from behind the mark, so that
they may lie inside characters. Then even an entry whose text is gone has no answer; without the
mark it has one. -/
theorem byte_order_mark_unanswered :
    let goodbye : SnapshotEntry := ⟨"Common.goodbye", [], ⟨"a.js::file::line:1", "a.js", .file, 1,
      .literal, 0, ⟨2, 10⟩, .plain, "再见", "'再见'", []⟩⟩
    let answer (content : String) : Option FileRewrite :=
      rewriteContent { root := ⟨"/project"⟩ } "a.js" content (.script .javaScript) [goodbye]
    answer "\ufeffa('你')" = none ∧
      (answer "a('你')").map (·.record.substitutions.map (·.outcome)) =
        some [.failed .textNotFound] := by
  decide +kernel

end Phrasebook.Rewriting
