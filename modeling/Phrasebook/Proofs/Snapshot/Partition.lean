import Phrasebook.Disk.State
import Phrasebook.Extraction.Project
import Phrasebook.Proofs.Disk.Run
import Phrasebook.Proofs.Extraction.File
import Phrasebook.Proofs.Key.Assignment
import Phrasebook.Proofs.Occurrence.Location
import Phrasebook.Proofs.Text.Table

/-!
Nothing that is extracted gets lost. The occurrences of a project have keys of location of their
own, so that each of them is in its snapshot as it was found or is listed as one without a key, and
the counts of the snapshot add up.
-/

namespace Phrasebook

namespace ProjectExtraction

open Occurrence

/-- What has been found when the files `rest` are still to be read. -/
structure Distinct (found : ProjectExtraction) (rest : List SourceFile) : Prop where
  keys : (found.occurrences.map (·.locationKey)).Nodup
  located : ∀ o ∈ found.occurrences, o.Located
  /-- No file is read twice. -/
  fresh : ∀ o ∈ found.occurrences, o.file ∉ rest.map (·.relative)

theorem occurrences_ofFile {settings : Settings} {file content : String} {kind : FileKind}
    {extraction : Extraction}
    (extracted : Extraction.ofFile settings file kind content = .ok extraction) :
    ∃ candidates, extraction.occurrences = number file candidates := by
  obtain ⟨scan, -, made⟩ := ok_of_bind extracted
  obtain rfl := Except.ok.inj made
  exact ⟨scan.candidates, rfl⟩

/-- A file adds its occurrences or nothing. -/
theorem Distinct.addContent {settings : Settings} {found next : ProjectExtraction}
    {file : SourceFile} {rest : List SourceFile} (distinct : Distinct found (file :: rest))
    (others : file.relative ∉ rest.map (·.relative)) {content : String}
    (added : found.addContent settings file.relative content file.kind = .ok next) :
    Distinct next rest := by
  have passed : ∀ o ∈ found.occurrences, o.file ∉ rest.map (·.relative) := fun o member listed =>
    distinct.fresh o member (List.mem_cons_of_mem _ listed)
  unfold ProjectExtraction.addContent at added
  split at added
  · rename_i extraction extracted
    obtain rfl := Except.ok.inj added
    obtain ⟨candidates, same⟩ := occurrences_ofFile extracted
    have whole : (found.addFile extraction).occurrences =
        found.occurrences ++ number file.relative candidates := by rw [addFile, same]
    refine ⟨?_, ?_, ?_⟩ <;> rw [whole]
    · rw [List.map_append]
      refine List.nodup_append.mpr ⟨distinct.keys, nodup_locationKey_number _ _, ?_⟩
      intro key before other behind same
      obtain ⟨a, old, rfl⟩ := List.mem_map.mp before
      obtain ⟨b, new, rfl⟩ := List.mem_map.mp behind
      obtain ⟨name, keyed⟩ := located_of_mem_number new
      refine (distinct.located a old).ne keyed (fun files => ?_) same
      exact distinct.fresh a old (by rw [files, name]; exact List.mem_cons_self)
    · intro o member
      rcases List.mem_append.mp member with old | new
      · exact distinct.located o old
      · exact (located_of_mem_number new).2
    · intro o member
      rcases List.mem_append.mp member with old | new
      · exact passed o old
      · rw [(located_of_mem_number new).1]
        exact others
  · cases added
  · obtain rfl := Except.ok.inj added
    exact ⟨distinct.keys, distinct.located, passed⟩

theorem addContent_failed {settings : Settings} {found : ProjectExtraction} {file content : String}
    {kind : FileKind} {failure : Failure}
    (failed : found.addContent settings file content kind = .error failure) :
    failure = .misaligned file := by
  unfold ProjectExtraction.addContent at failed
  split at failed
  · cases failed
  · exact (Except.error.inj failed).symm
  · cases failed

/-- How reading files ends, whatever the disk answers. -/
theorem readFiles_distinct {σ : Type} (answer : Disk.Answering σ) (settings : Settings)
    {found : ProjectExtraction} {files : List SourceFile} (distinct : Distinct found files)
    (names : (files.map (·.relative)).Nodup) (s : σ) :
    match ((readFiles settings found files).runWith answer s).1 with
    | .ok whole => (whole.occurrences.map (·.locationKey)).Nodup
    | .error failure => ∃ file ∈ files, failure = .misaligned file.relative := by
  induction files generalizing found s with
  | nil => exact distinct.keys
  | cons file rest ih =>
    obtain ⟨others, names⟩ := List.nodup_cons.mp names
    have later : ∀ (next : ProjectExtraction) (s : σ), Distinct next rest →
        match ((readFiles settings next rest).runWith answer s).1 with
        | .ok whole => (whole.occurrences.map (·.locationKey)).Nodup
        | .error failure => ∃ other ∈ file :: rest, failure = .misaligned other.relative := by
      intro next s kept
      have ends := ih kept names s
      cases ended : ((readFiles settings next rest).runWith answer s).1 with
      | ok whole => rwa [ended] at ends
      | error failure =>
        rw [ended] at ends
        obtain ⟨other, member, same⟩ := ends
        exact ⟨other, List.mem_cons_of_mem _ member, same⟩
    rw [readFiles, Job.runWith_bind, Job.runWith_lift]
    dsimp only
    cases (Disk.read file.path).run answer s with
    | mk reply s =>
      cases reply with
      | error fault =>
        refine later _ s ⟨distinct.keys, distinct.located, fun o member listed => ?_⟩
        exact distinct.fresh o member (List.mem_cons_of_mem _ listed)
      | ok content =>
        dsimp only
        cases added : found.addContent settings file.relative content file.kind with
        | ok next => exact later next s (distinct.addContent others added)
        | error failure => exact ⟨file, List.mem_cons_self, addContent_failed added⟩

end ProjectExtraction

namespace Snapshot

open Text

/-- The keys of a table that is built from pairs with keys of their own. -/
theorem keys_sortedTable_perm {α : Type} {pairs : List (String × α)}
    (distinct : (pairs.map (·.1)).Nodup) :
    ((sortedTable pairs).map (·.1)).Perm (pairs.map (·.1)) := by
  have scan : ∀ (rest front : List (String × α)), ((front ++ rest).map (·.1)).Nodup →
      ((rest.foldl (fun table pair => insertSorted pair.1 pair.2 table) front).map (·.1)).Perm
        ((front ++ rest).map (·.1)) := by
    intro rest
    induction rest with
    | nil => exact fun front _ => by rw [List.append_nil]; exact .refl _
    | cons pair rest ih =>
      intro front distinct
      have moved : ((front ++ pair :: rest).map (·.1)).Perm
          (pair.1 :: (front ++ rest).map (·.1)) := by
        simp [List.perm_middle]
      have fresh : pair.1 ∉ front.map (·.1) := fun listed =>
        (List.nodup_cons.mp (moved.nodup_iff.mp distinct)).1 (by
          rw [List.map_append]
          exact List.mem_append_left _ listed)
      have grown : ((insertSorted pair.1 pair.2 front ++ rest).map (·.1)).Perm
          ((front ++ pair :: rest).map (·.1)) := by
        rw [List.map_append]
        refine ((keys_insertSorted pair.2 fresh).append_right _).trans ?_
        rw [List.cons_append, ← List.map_append]
        exact moved.symm
      rw [List.foldl_cons]
      exact (ih _ (grown.nodup_iff.mpr distinct)).trans grown
  exact scan pairs [] distinct

variable {found : ProjectExtraction} (done : Assignment) (time : Instant)

/-- The look-up in a snapshot is that of the key, joined with the occurrence. -/
theorem lookup_ofExtraction
    (distinct : (found.occurrences.map (·.locationKey)).Nodup) {o : Occurrence}
    (member : o ∈ found.occurrences) : (ofExtraction found done time).entries.lookup o.locationKey =
      (done.entries.lookup o.locationKey).map fun entry => ⟨entry.key, entry.bindings, o⟩ := by
  have only : ∀ {key : String} {entry : SnapshotEntry},
      (key, entry) ∈ found.occurrences.filterMap (entryOf? done) → key = o.locationKey →
      ∃ assigned, done.entries.lookup o.locationKey = some assigned ∧
        entry = ⟨assigned.key, assigned.bindings, o⟩ := by
    intro key entry listed same
    obtain ⟨other, found, made⟩ := List.mem_filterMap.mp listed
    obtain ⟨assigned, held, made⟩ := Option.map_eq_some_iff.mp made
    obtain ⟨rfl, rfl⟩ := Prod.mk.inj made
    obtain rfl : other = o := List.inj_on_of_nodup_map distinct found member same
    exact ⟨assigned, held, rfl⟩
  cases looked : (ofExtraction found done time).entries.lookup o.locationKey with
  | some entry =>
    obtain ⟨assigned, held, rfl⟩ := only (mem_sortedTable (mem_of_lookup looked)) rfl
    rw [held]
    rfl
  | none =>
    cases held : done.entries.lookup o.locationKey with
    | none => rfl
    | some assigned =>
      have listed : o.locationKey ∈ (found.occurrences.filterMap (entryOf? done)).map (·.1) := by
        have made : entryOf? done o = some
            (o.locationKey, ⟨assigned.key, assigned.bindings, o⟩) := by
          rw [entryOf?, held]
          rfl
        exact List.mem_map.mpr ⟨_, List.mem_filterMap.mpr ⟨o, member, made⟩, rfl⟩
      have some := lookup_sortedTable_isSome listed
      change (List.lookup o.locationKey (sortedTable _)) = none at looked
      rw [looked] at some
      cases some

theorem isSome_lookup_iff_mem {α : Type} {key : String} {table : List (String × α)} :
    (table.lookup key).isSome = true ↔ key ∈ table.map (·.1) := by
  cases held : table.lookup key with
  | none => exact iff_of_false (by simp) (not_mem_keys_of_lookup held)
  | some value => exact iff_of_true rfl (mem_keys_of_lookup held)

theorem keys_entryOf? (occurrences : List Occurrence) :
    (occurrences.filterMap (entryOf? done)).map (·.1) =
      (occurrences.map (·.locationKey)).filter fun key => (done.entries.lookup key).isSome := by
  induction occurrences with
  | nil => rfl
  | cons o occurrences ih =>
    rw [List.filterMap_cons, List.map_cons, List.filter_cons, ← ih]
    unfold entryOf?
    cases done.entries.lookup o.locationKey <;> rfl

/-- A snapshot has an entry for each occurrence with a key, and no others. -/
theorem keys_ofExtraction_perm (distinct : (found.occurrences.map (·.locationKey)).Nodup)
    (places : (done.entries.map (·.1) ++ done.unassigned.map (·.1)).Perm
      (found.occurrences.map (·.locationKey))) :
    ((ofExtraction found done time).entries.map (·.1)).Perm (done.entries.map (·.1)) := by
  have listed := keys_entryOf? done found.occurrences
  have kept := listed ▸ distinct.filter fun key => (done.entries.lookup key).isSome
  have assigned := (List.nodup_append.mp (places.nodup_iff.mpr distinct)).1
  refine (keys_sortedTable_perm kept).trans
    ((List.perm_ext_iff_of_nodup kept assigned).mpr fun key => ?_)
  rw [listed, List.mem_filter, isSome_lookup_iff_mem]
  exact and_iff_right_of_imp fun held => places.mem_iff.mp (List.mem_append_left _ held)

/-- An occurrence is of one kind or of the other. -/
theorem count_kinds (found : ProjectExtraction) :
    found.count .plain + found.count .interpolated = found.occurrences.length := by
  unfold ProjectExtraction.count
  induction found.occurrences with
  | nil => rfl
  | cons o occurrences ih =>
    rw [List.countP_cons, List.countP_cons, List.length_cons, ← ih]
    cases o.kind <;> simp <;> omega

/-- The main statement about what a run extracts, for files with names of their own, whatever these
and the files hold. If no file ends the run, all occurrences have keys of location of their own;
each of them is in the snapshot as it was found, under its key, or is listed as left without a key,
but not both; and the counts of the snapshot add up to its entries and those left out. -/
theorem run_partition {σ : Type} (answer : Disk.Answering σ) (s : σ) (settings : Settings)
    (files : List SourceFile) (names : (files.map (·.relative)).Nodup) :
    match ((ProjectExtraction.ofFiles settings files).runWith answer s).1 with
    | .error failure => ∃ file ∈ files, failure = .misaligned file.relative
    | .ok found =>
      (found.occurrences.map (·.locationKey)).Nodup ∧
      ∀ (assigner : Key.Assigner) (time : Instant),
        let done := assigner.assign found.occurrences
        let snapshot := ofExtraction found done time
        (∀ o ∈ found.occurrences,
          Xor (∃ key bindings, snapshot.entries.lookup o.locationKey = some ⟨key, bindings, o⟩)
            (o.locationKey ∈ done.unassigned.map (·.1))) ∧
        snapshot.metadata.total = snapshot.metadata.plainCount +
          snapshot.metadata.interpolatedCount ∧
        snapshot.metadata.total = snapshot.entries.length + done.unassigned.length := by
  have start : ProjectExtraction.Distinct { fileCount := files.length } files :=
    ⟨List.nodup_nil, by simp, by simp⟩
  have ends := ProjectExtraction.readFiles_distinct answer settings start names s
  unfold ProjectExtraction.ofFiles
  cases ended : ((ProjectExtraction.readFiles settings { fileCount := files.length } files).runWith
      answer s).1 with
  | error failure => rwa [ended] at ends
  | ok found =>
    rw [ended] at ends
    have distinct : (found.occurrences.map (·.locationKey)).Nodup := ends
    refine ⟨distinct, fun assigner time => ?_⟩
    intro done snapshot
    obtain ⟨last, sound, -⟩ := assigner.assign_sound distinct
    refine ⟨fun o member => ?_, (count_kinds found).symm, ?_⟩
    · have apart := List.disjoint_of_nodup_append (sound.places.nodup_iff.mpr distinct)
      have placed := List.mem_append.mp (sound.places.mem_iff.mpr (List.mem_map_of_mem member))
      have looked := lookup_ofExtraction done time distinct member
      cases held : done.entries.lookup o.locationKey with
      | some entry =>
        rw [held] at looked
        exact .inl ⟨⟨entry.key, entry.bindings, looked⟩, fun left =>
          apart (mem_keys_of_lookup held) left⟩
      | none =>
        rw [held] at looked
        have left := placed.resolve_left (not_mem_keys_of_lookup held)
        refine .inr ⟨left, fun ⟨key, bindings, found⟩ => ?_⟩
        rw [found] at looked
        cases looked
    · have counted := sound.places.length_eq
      have kept := (keys_ofExtraction_perm done time distinct sound.places).length_eq
      simp only [List.length_append, List.length_map] at counted kept
      change found.occurrences.length = _
      rw [← counted, kept]

/-- The second file has the name that the place of the first occurrence in the first one has. -/
theorem run_partition_colons :
    let disk : Disk.State := { entries := [
      (["one"], .file (.text "'好'")), (["two"], .file (.text "'你'"))] }
    let files : List SourceFile := [
      ⟨⟨"/one"⟩, "a", .script .javaScript⟩, ⟨⟨"/two"⟩, "a::file::line:1", .script .javaScript⟩]
    ∃ found, ((ProjectExtraction.ofFiles (Settings.ofConfig {}) files).runWith
        Disk.State.answer disk).1 = .ok found ∧
      found.occurrences.map (·.locationKey) =
        ["a::file::line:1", "a::file::line:1::file::line:1"] ∧
      (found.occurrences.map (·.locationKey)).Nodup := by
  intro disk files
  obtain ⟨found, ended, keys⟩ : ∃ found,
    ((ProjectExtraction.ofFiles (Settings.ofConfig {}) files).runWith
      Disk.State.answer disk).1 = .ok found ∧ found.occurrences.map (·.locationKey) =
        ["a::file::line:1", "a::file::line:1::file::line:1"] :=
    ok_of_mem_toOption (by decide +kernel)
  have whole := run_partition Disk.State.answer disk (Settings.ofConfig {}) files (by decide)
  rw [ended] at whole
  exact ⟨found, ended, keys, whole.1⟩

end Snapshot
end Phrasebook
