import Phrasebook.Config.Check
import Phrasebook.Proofs.Command.Writes
import Phrasebook.Proofs.Key.Assignment
import Phrasebook.Proofs.Locale.TemplateText
import Phrasebook.Proofs.Resource.ModuleFile
import Phrasebook.Proofs.Snapshot.Partition

/-!
What is in the directory of the default locale when phrases have been extracted. Every module is
read back as it was written, so that the keys of the snapshot lead to their texts there.
-/

namespace Phrasebook

open Disk (State Place)
open Disk.State

namespace Snapshot

variable {found : ProjectExtraction} {assigner : Key.Assigner} {time : Instant}

/-- The tree of a run has the text of each entry of its snapshot under its key. -/
theorem text_of_entry (distinct : (found.occurrences.map (·.locationKey)).Nodup) :
    ∀ entry ∈ (ofExtraction found (assigner.assign found.occurrences) time).entries,
      (assigner.assign found.occurrences).tree.text? entry.2.key =
        some entry.2.occurrence.text := by
  intro entry listed
  obtain ⟨last, sound, tree⟩ := assigner.assign_sound distinct
  obtain ⟨o, member, made⟩ := List.mem_filterMap.mp (Text.mem_sortedTable listed)
  obtain ⟨assigned, held, rfl⟩ := Option.map_eq_some_iff.mp made
  rw [tree]
  exact (sound.entries o member assigned held).1

/-- Every key that a run gives is in its snapshot. -/
theorem exists_entry_of_key (distinct : (found.occurrences.map (·.locationKey)).Nodup)
    {location : String} {assigned : KeyEntry}
    (held : (assigner.assign found.occurrences).entries.lookup location = some assigned) :
    ∃ entry ∈ (ofExtraction found (assigner.assign found.occurrences) time).entries,
      entry.2.key = assigned.key := by
  obtain ⟨last, sound, -⟩ := assigner.assign_sound distinct
  have placed := sound.places.mem_iff.mp (List.mem_append_left _ (Text.mem_keys_of_lookup held))
  obtain ⟨o, member, rfl⟩ := List.mem_map.mp placed
  have looked := lookup_ofExtraction (assigner.assign found.occurrences) time distinct member
  rw [held] at looked
  exact ⟨_, Text.mem_of_lookup looked, rfl⟩

end Snapshot

namespace ResourceTree

/-- The texts of a module are those below the group that it is. -/
theorem text?_congr {a b : ResourceTree} {key name : String} (isModule : IsModuleOf key name)
    (same : a.modules.lookup name = b.modules.lookup name) : a.text? key = b.text? key := by
  unfold IsModuleOf at isModule
  unfold text? get?
  obtain ⟨rest, path⟩ := List.head?_eq_some_iff.mp isModule
  rw [path, ResourceNode.descend?, ResourceNode.descend?, same]

/-- A key that leads to a text leads through a module. -/
theorem exists_module {tree : ResourceTree} {key text : String}
    (held : tree.text? key = some text) :
    ∃ name node, IsModuleOf key name ∧ tree.modules.lookup name = some node := by
  change ResourceNode.textBelow? tree.modules (Text.splitDots key) = some text at held
  cases path : Text.splitDots key with
  | nil => rw [path] at held; cases held
  | cons name rest =>
    rw [path, ResourceNode.textBelow?_cons] at held
    obtain ⟨node, looked, -⟩ := Option.bind_eq_some_iff.mp held
    exact ⟨name, node, by rw [IsModuleOf, path]; rfl, looked⟩

end ResourceTree

namespace Project

variable {project : Project} {s t : State} {home : Place}

theorem join_text_ne (base : Path) {path : Path} (filled : base.text ≠ "") :
    (base.join path).text ≠ "" := by
  unfold Path.join
  split
  · rename_i absolute
    intro empty
    rw [Path.isAbsolute, empty] at absolute
    cases absolute
  · split
    · simp [filled]
    · simp

theorem localeDir_text_ne (project : Project) (locale : String) :
    (project.localeDir locale).text ≠ "" := by
  refine join_text_ne _ ?_
  unfold langDir Path.join
  split
  · decide
  · split <;> simp

/-- A module that is read as it was written: its name leads to a file and back, and no file that is
there for the same module comes after it, neither under its own name nor under the name that it gets
when it is written again. -/
structure Shown (s : State) (home : Place) (name : String) : Prop where
  noSlash : '/' ∉ name.toList
  faithful : Locale.moduleOf (Locale.moduleFileName name) = name
  latest : ∀ file, s.entry? (home ++ [file]) ≠ none → Locale.IsModuleFile file →
    ∀ other ∈ [file, Locale.moduleFileName (Locale.moduleOf file)],
      Locale.moduleOf other = name → other ≤ Locale.moduleFileName name

/-- The name of a file that is read as its module is one of a module file. -/
theorem Shown.isModuleFile {name : String} (shown : Shown s home name) :
    Locale.IsModuleFile (Locale.moduleFileName name) := by
  have split := @Path.splitExtension_append (Text.decapitalize name) "js" (by decide) (by decide)
  have text : Locale.moduleFileName name = Text.decapitalize name ++ ("." ++ "js") := rfl
  rw [Locale.IsModuleFile, text, split]
  split
  · rename_i empty
    -- The file would be `.js` and its module would have another name.
    have faithful := shown.faithful
    rw [Locale.moduleOf, text, split, if_pos empty] at faithful
    rw [← faithful] at empty
    exact absurd empty (by decide)
  · rfl

/-- What a run leaves in the directory of the default locale: the modules of a tree, and all other
module files as they were. -/
structure Written (directory : Path) (home : Place) (tree : ResourceTree) (s t : State) : Prop where
  place : t.place directory = .ok home
  here : t.entry? home = some .directory
  modules : ∀ entry ∈ tree.modules, Locale.IsModuleFile (Locale.moduleFileName entry.1) →
    t.entry? (home ++ [Locale.moduleFileName entry.1]) = some (.file (.text entry.2.moduleText))
  others : ∀ name, Locale.IsModuleFile name →
    (∀ entry ∈ tree.modules, name ≠ Locale.moduleFileName entry.1) →
    t.entry? (home ++ [name]) = s.entry? (home ++ [name])

/-- Writing the modules and then nothing in their way. -/
theorem written_of_within {tree : ResourceTree} {files : List Path} {middle : State}
    (separate : project.Separate s home) (plain : ∀ entry ∈ tree.modules, '/' ∉ entry.1.toList)
    (wrote : (Locale.write (project.localeDir project.config.defaultLocale) tree).runWith answer s =
      (.ok files, middle)) (later : Within (Beside home) middle t) :
    Written (project.localeDir project.config.defaultLocale) home tree s t := by
  obtain ⟨place, walked, noZero, here, texts, within⟩ := Locale.write_spec plain wrote
  have leads := within.home ▸ lead_of_walk walked
  obtain rfl := Except.ok.inj (separate.leads.symm.trans leads)
  have kept (name : String) (isModule : Locale.IsModuleFile name) :
      t.entry? (home ++ [name]) = middle.entry? (home ++ [name]) :=
    later.kept _ fun beside => beside name isModule rfl
  refine ⟨later.place_eq ?_, later.directories _ here, fun entry listed isModule => ?_,
    fun name isModule apart => ?_⟩
  · exact place_of_walk (localeDir_text_ne project _) noZero walked fun _ => here
  · rw [kept _ isModule]
    exact texts entry listed
  · rw [kept _ isModule]
    refine within.kept _ fun changed => ?_
    rcases changed with ⟨passed, -⟩ | ⟨entry, listed, same⟩
    · exact separate.way name isModule passed
    · exact apart entry listed (List.singleton_inj.mp (List.append_cancel_left same))

/-- A file that is as it was holds what it held. -/
theorem Written.holds_of_same {tree : ResourceTree} {directory : Path}
    (written : Written directory home tree s t) (seen : s.place directory = .ok home)
    (here : s.entry? home = some .directory) {name : String} (isName : Path.IsName name)
    (same : t.entry? (home ++ [name]) = s.entry? (home ++ [name])) {members : List
      (String × ResourceNode)} (holds : Locale.Holds s (directory.join ⟨name⟩) members) :
    Locale.Holds t (directory.join ⟨name⟩) members := by
  obtain ⟨text, read, parsed⟩ := holds
  obtain ⟨place, found, there⟩ := read_ok read
  obtain rfl := Except.ok.inj ((place_join_name seen here isName).symm.trans found)
  exact ⟨text, read_of_place (place_join_name written.place written.here isName)
    (same.trans there), parsed⟩

theorem Written.holds_module {tree : ResourceTree} {directory : Path}
    (written : Written directory home tree s t) (proper : t.Proper) (stored : tree.Stored)
    {name : String} {members : List (String × ResourceNode)}
    (listed : (name, .group members) ∈ tree.modules)
    (isModule : Locale.IsModuleFile (Locale.moduleFileName name)) :
    t.entry? (home ++ [Locale.moduleFileName name]) ≠ none ∧
      Locale.Holds t (directory.join ⟨Locale.moduleFileName name⟩) members := by
  have there := written.modules _ listed isModule
  have some : t.entry? (home ++ [Locale.moduleFileName name]) ≠ none := by rw [there]; exact nofun
  have isName := proper.isName (mem_names.mpr some)
  exact ⟨some, _, read_of_place (place_join_name written.place written.here isName) there,
    ModuleFile.read_of_exported (ModuleFile.parse_moduleText (stored.data.member listed))⟩

/-- All module files hold modules again. -/
theorem Written.holds {existing tree : ResourceTree} (separate : project.Separate s home)
    (before : s.Proper) (after : t.Proper) (stored : tree.Stored)
    (loaded : (Locale.read (project.localeDir project.config.defaultLocale)).runWith answer s =
      (.ok existing, s))
    (written : Written (project.localeDir project.config.defaultLocale) home tree s t)
    (name : String) (there : t.entry? (home ++ [name]) ≠ none)
    (isModule : Locale.IsModuleFile name) :
    ∃ members, Locale.Holds t
      ((project.localeDir project.config.defaultLocale).join ⟨name⟩) members := by
  by_cases new : ∃ entry ∈ tree.modules, name = Locale.moduleFileName entry.1
  · obtain ⟨⟨module, node⟩, listed, rfl⟩ := new
    obtain ⟨members, rfl⟩ : ∃ members, node = .group members := stored.groups _ listed
    exact ⟨members, (written.holds_module after stored listed isModule).2⟩
  · have same := written.others name isModule fun entry listed equal => new ⟨entry, listed, equal⟩
    have old : s.entry? (home ++ [name]) ≠ none := same ▸ there
    have here : s.entry? home = some .directory := by
      have above := before.above old
      rwa [List.dropLast_concat] at above
    have seen := separate.seen (by rw [here]; exact nofun)
    obtain ⟨-, all, -⟩ := Locale.read_ok before loaded
    obtain ⟨members, holds⟩ := all home seen here name old isModule
    exact ⟨members, written.holds_of_same seen here (before.isName (mem_names.mpr old)) same holds⟩

/-- Of the files that are there afterwards, none for a module that is shown comes after its own. -/
theorem Written.latest {existing tree : ResourceTree} (separate : project.Separate s home)
    (before : s.Proper)
    (loaded : (Locale.read (project.localeDir project.config.defaultLocale)).runWith answer s =
    (.ok existing, s))
    (written : Written (project.localeDir project.config.defaultLocale) home tree s t)
    (names : ∀ name ∈ tree.modules.map (·.1), name ∈ existing.modules.map (·.1) ∨ Shown s home name)
    {name : String} (shown : Shown s home name) {file : String}
    (there : t.entry? (home ++ [file]) ≠ none) (isModule : Locale.IsModuleFile file)
    (same : Locale.moduleOf file = name) : file ≤ Locale.moduleFileName name := by
  by_cases new : ∃ entry ∈ tree.modules, file = Locale.moduleFileName entry.1
  · obtain ⟨entry, listed, rfl⟩ := new
    rcases names entry.1 (List.mem_map_of_mem listed) with known | faithful
    · obtain ⟨source, member, named⟩ := List.mem_map.mp known
      obtain ⟨-, -, -, modules⟩ := Locale.read_ok before loaded
      obtain ⟨place, old, _, seen, stands, wasModule, -, rfl⟩ := modules source member
      have leads := lead_of_place seen
      obtain rfl := Except.ok.inj (separate.leads.symm.trans leads)
      rw [← named]
      exact shown.latest old stands wasModule _ (by simp) (by rw [← same, ← named])
    · rw [← faithful.faithful, same]
  · have old := written.others file isModule fun entry listed equal => new ⟨entry, listed, equal⟩
    exact shown.latest file (old ▸ there) isModule file (by simp) same

theorem distinct_of_extracted {settings : Settings} {files : List SourceFile}
    {found : ProjectExtraction} (names : (files.map (·.relative)).Nodup)
    (extracted : (ProjectExtraction.ofFiles settings files).runWith answer s = (.ok found, t)) :
    (found.occurrences.map (·.locationKey)).Nodup := by
  have start : ProjectExtraction.Distinct { fileCount := files.length } files :=
    ⟨List.nodup_nil, by simp, by simp⟩
  have ends := ProjectExtraction.readFiles_distinct answer settings start names s
  have same :
      (ProjectExtraction.readFiles settings { fileCount := files.length } files).runWith answer s =
      (.ok found, t) := extracted
  rwa [same] at ends

/-- The modules of a locale can be written again, unless a number in them was too large. -/
theorem isData_of_loaded {directory : Path} {tree : ResourceTree} (proper : s.Proper)
    (loaded : (Locale.read directory).runWith answer s = (.ok tree, t))
    (finite : ∀ entry ∈ tree.modules, ¬ entry.2.HasNull) :
    ∀ entry ∈ tree.modules, ResourceNode.IsData entry.2 := by
  obtain ⟨-, -, -, modules⟩ := Locale.read_ok proper loaded
  intro entry listed
  obtain ⟨_, _, members, -, -, -, ⟨text, -, read⟩, rfl⟩ := modules entry listed
  exact ModuleFile.isData_of_read read (finite _ listed)

/-- The tree that is written can be read again, if the one that was there can be written again. -/
theorem stored_assignment {existing : ResourceTree} (proper : s.Proper)
    (legible : ∀ existing,
      (Locale.read (project.localeDir project.config.defaultLocale)).runWith answer s =
        (.ok existing, s) →
      ∀ entry ∈ existing.modules, ResourceNode.IsData entry.2)
    (loaded : (Locale.read (project.localeDir project.config.defaultLocale)).runWith answer s =
      (.ok existing, s))
    (found : ProjectExtraction) : (project.assignment existing found).tree.Stored := by
  obtain ⟨-, -, distinct, modules⟩ := Locale.read_ok proper loaded
  refine Key.Assigner.assignFrom_tree (fun _ _ _ _ stored done => stored.insert done) _ _ ?_
  refine ⟨.group distinct (legible existing loaded), fun entry listed => ?_⟩
  obtain ⟨_, _, members, -, -, -, -, rfl⟩ := modules entry listed
  exact ⟨members, rfl⟩

/-- What an extraction does: it writes the modules, nothing that it does then gets in their way, and
what it writes last as a snapshot is there in the end. -/
theorem extract_spec {outcome : Command.Outcome} (proper : s.Proper)
    (separate : project.Separate s home)
    (done : project.extract.runWith answer s = (.ok outcome, t)) :
    ∃ found existing summary files middle,
      (ProjectExtraction.ofFiles (Settings.ofConfig project.config)
        (project.scan.run answer s).1.files).runWith answer s = (.ok found, s) ∧
      (Locale.read (project.localeDir project.config.defaultLocale)).runWith answer s =
        (.ok existing, s) ∧
      (Locale.write (project.localeDir project.config.defaultLocale)
        (project.assignment existing found).tree).runWith answer s = (.ok files, middle) ∧
      Within (Beside home) middle t ∧ t.Proper ∧ outcome.summary = .extracted summary ∧
      t.read summary.snapshotFile =
        .ok (Snapshot.ofExtraction found (project.assignment existing found) s.clock).render := by
  obtain ⟨found, existing, output, written, file, taken, summary, extracted, loaded,
    wrote, took, secondary, outcomes, rfl⟩ := extract_steps proper done
  obtain ⟨files, middle, wroteModules, afterModules⟩ :=
    writeDefault_spec separate.lang.1 separate.lang.2 wrote
  obtain ⟨middleHome, -⟩ := keeps_of_runWith wroteModules
  obtain ⟨writtenHome, writtenProper⟩ := keeps_of_runWith wrote
  obtain ⟨takenHome, takenProper⟩ := keeps_of_runWith took
  have out : KeepsOff written.workingDirectory home project.outputDir := by
    rw [writtenHome]
    refine separate.lang.1.mono ?_
    rw [components_langDir]
    exact List.prefix_append ..
  obtain ⟨besideSnapshot, above, name, place, held⟩ := snapshot_write_spec out took
  -- The last stage keeps off the modules and off the snapshot, too.
  have last : t.Proper ∧ Within (fun other => Beside home other ∧
      ∀ above name, other = above ++ [name ++ ".json"] → Free taken other) taken t := by
    rcases secondary with ⟨-, rfl⟩ | ⟨asked, target, generated⟩
    · exact ⟨takenProper (writtenProper proper), .refl _ _⟩
    · obtain ⟨off, apart⟩ := separate.secondary asked
      rw [← writtenHome, ← takenHome] at off apart
      have properly := takenProper (writtenProper proper)
      exact ⟨(keeps_of_runWith generated).2 properly,
        writeTarget_beside properly off apart generated⟩
  have kept : t.entry? (above ++ [name ++ ".json"]) =
      taken.entry? (above ++ [name ++ ".json"]) := by
    refine last.2.kept _ fun changed => ?_
    have free := changed.2 above name rfl
    rw [Free, held] at free
    cases free
  exact ⟨found, existing, summary, files, middle, extracted, loaded, wroteModules,
    ((afterModules middleHome).trans besideSnapshot).trans
    (last.2.mono fun _ changed => changed.1), last.1,
    outcomes, read_of_place (last.2.place_eq place) (kept.trans held)⟩

/-- A module that is written was read before, or it is one of a key in the snapshot. -/
theorem known_or_shown {found : ProjectExtraction} {existing : ResourceTree} {time : Instant}
    (distinct : (found.occurrences.map (·.locationKey)).Nodup)
    (shown : ∀ entry ∈ (Snapshot.ofExtraction found
      (project.assignment existing found) time).entries, ∀ name, IsModuleOf entry.2.key name →
        Shown s home name) :
    ∀ name ∈ (project.assignment existing found).tree.modules.map (·.1),
      name ∈ existing.modules.map (·.1) ∨ Shown s home name := by
  intro name listed
  refine (Key.Assigner.assign_covers _ distinct name listed).imp_right ?_
  rintro ⟨location, assigned, held, isModule⟩
  obtain ⟨entry, member, same⟩ := Snapshot.exists_entry_of_key distinct held
  exact shown entry member name (same ▸ isModule)

theorem slash_not_mem_modules {existing tree : ResourceTree} (proper : s.Proper)
    (loaded : (Locale.read (project.localeDir project.config.defaultLocale)).runWith answer s =
      (.ok existing, s))
    (names : ∀ name ∈ tree.modules.map (·.1), name ∈ existing.modules.map (·.1) ∨
      Shown s home name) :
    ∀ entry ∈ tree.modules, '/' ∉ entry.1.toList := by
  intro entry listed
  rcases names entry.1 (List.mem_map_of_mem listed) with known | faithful
  · obtain ⟨source, member, named⟩ := List.mem_map.mp known
    obtain ⟨-, -, -, modules⟩ := Locale.read_ok proper loaded
    obtain ⟨_, file, _, -, stands, -, -, rfl⟩ := modules source member
    rw [← named]
    exact Locale.slash_not_mem_moduleOf (proper.isName (mem_names.mpr stands)).noSlash
  · exact faithful.noSlash

/-- What has been written is read with its texts, under keys whose modules are shown. -/
theorem Written.exists_read {existing tree : ResourceTree} (separate : project.Separate s home)
    (before : s.Proper) (after : t.Proper) (stored : tree.Stored)
    (loaded : (Locale.read (project.localeDir project.config.defaultLocale)).runWith answer s =
      (.ok existing, s))
    (names : ∀ name ∈ tree.modules.map (·.1), name ∈ existing.modules.map (·.1) ∨ Shown s home name)
    (written : Written (project.localeDir project.config.defaultLocale) home tree s t) :
    ∃ result, (Locale.read (project.localeDir project.config.defaultLocale)).runWith answer
      t = (.ok result, t) ∧ ∀ key text, tree.text? key = some text →
        (∀ name, IsModuleOf key name → Shown s home name) → result.text? key = some text := by
  obtain ⟨result, read, lookups⟩ := Locale.read_of_holds after written.place written.here
    (written.holds separate before after stored loaded)
  refine ⟨result, read, fun key text held shown => ?_⟩
  obtain ⟨module, node, isModule, looked⟩ := ResourceTree.exists_module held
  have faithful := shown module isModule
  have listed := Text.mem_of_lookup looked
  obtain ⟨members, rfl⟩ : ∃ members, node = .group members := stored.groups _ listed
  obtain ⟨there, holds⟩ := written.holds_module after stored listed faithful.isModuleFile
  have found := lookups _ members there faithful.isModuleFile holds fun other stands kind same =>
    written.latest separate before loaded names faithful stands kind (same.trans faithful.faithful)
  rw [faithful.faithful] at found
  rw [← held]
  exact ResourceTree.text?_congr isModule (found.trans looked.symm)

/-- The default locale behind an extraction. Its directory has a place of its own, what it holds
already can be written again, and the modules of the keys in the snapshot are shown. Then the
snapshot is in its file, and reading the directory gives the text of each entry under its key. -/
theorem extract_reads_back {outcome : Command.Outcome} (proper : s.Proper)
    (separate : project.Separate s home)
    (legible : ∀ existing,
      (Locale.read (project.localeDir project.config.defaultLocale)).runWith answer s =
        (.ok existing, s) →
      ∀ entry ∈ existing.modules, ResourceNode.IsData entry.2)
    (shown : ∀ snapshot, project.snapshot.runWith answer s = (.ok snapshot, s) →
      ∀ entry ∈ snapshot.entries, ∀ name, IsModuleOf entry.2.key name → Shown s home name)
    (done : project.extract.runWith answer s = (.ok outcome, t)) :
    ∃ summary snapshot tree, outcome.summary = .extracted summary ∧
      project.snapshot.runWith answer s = (.ok snapshot, s) ∧
      t.read summary.snapshotFile = .ok (Snapshot.render snapshot) ∧
      (Locale.read (project.localeDir project.config.defaultLocale)).runWith answer
        t = (.ok tree, t) ∧
      ∀ entry ∈ snapshot.entries, tree.text? entry.2.key = some entry.2.occurrence.text := by
  obtain ⟨found, existing, summary, files, middle, extracted, loaded, wrote, later, after,
      outcomes, held⟩ :=
    extract_spec proper separate done
  have taken := snapshot_of_steps extracted loaded
  have distinct := distinct_of_extracted (project.nodup_relative_scan proper) extracted
  have stored := stored_assignment proper legible loaded found
  have names := known_or_shown distinct (shown _ taken)
  have written := written_of_within separate (slash_not_mem_modules proper loaded names) wrote later
  obtain ⟨tree, read, texts⟩ := written.exists_read separate proper after stored loaded names
  refine ⟨summary, _, tree, outcomes, taken, held, read, fun entry member => ?_⟩
  exact texts _ _ (Snapshot.text_of_entry distinct entry member) (shown _ taken entry member)

/-- The project with another locale beside its own one. -/
def beside (project : Project) (language : String) : Project :=
  { project with config :=
    { project.config with generateSecondaryLocale := true, secondaryLocale := language } }

theorem filesBelow_beside (language : String) : ∀ depth directory,
    (project.beside language).filesBelow depth directory = project.filesBelow depth directory
  | 0, _ => rfl
  | depth + 1, directory => by
    unfold filesBelow
    simp only [filesBelow_beside language depth]
    rfl

theorem scan_beside (language : String) : (project.beside language).scan = project.scan := by
  have below : (project.beside language).filesBelow = project.filesBelow :=
    funext fun depth => funext (filesBelow_beside language depth)
  unfold scan
  rw [below]
  rfl

theorem writeDefault_beside (language : String) (tree : ResourceTree) :
    Locale.writeDefault (project.beside language) tree = Locale.writeDefault project tree := by
  have bootstrap : Locale.writeBootstrap (project.beside language) =
      Locale.writeBootstrap project := rfl
  have template : (project.beside language).templatePath = project.templatePath := rfl
  unfold Locale.writeDefault Locale.writeTemplate
  rw [bootstrap, template]
  rfl

theorem writeTarget_alone (language : String) :
    Locale.writeTarget (project.beside language) language =
      Locale.writeTarget project language := by
  unfold Locale.writeTarget Locale.writeTranslated Locale.writeMissing
  rfl

theorem snapshot_beside (language : String) :
    (project.beside language).snapshot = project.snapshot := by
  unfold snapshot
  rw [scan_beside]
  rfl

/-- Another locale is made from what the extraction leaves. -/
theorem extract_beside {found : ProjectExtraction} {existing : ResourceTree}
    {output : Locale.DefaultOutput} {target : Locale.TargetOutput} {file : Path} {language : String}
    {written taken : State}
    (extracted : (ProjectExtraction.ofFiles (Settings.ofConfig project.config)
      (project.scan.run answer s).1.files).runWith answer s = (.ok found, s))
    (loaded : (Locale.read (project.localeDir project.config.defaultLocale)).runWith answer s =
      (.ok existing, s))
    (wrote : (Locale.writeDefault project (project.assignment existing found).tree).runWith answer
      s = (.ok output, written))
    (took : ((Snapshot.ofExtraction found (project.assignment existing found) s.clock).write
      project.outputDir s.clock).runWith answer written = (.ok file, taken))
    (generated : (Locale.writeTarget project language).runWith answer taken = (.ok target, t)) :
    ∃ outcome, (project.beside language).extract.runWith answer s = (.ok outcome, t) := by
  rw [← scan_beside language] at extracted
  rw [← writeDefault_beside language] at wrote
  rw [← writeTarget_alone language] at generated
  exact extract_of_steps rfl extracted loaded wrote took generated

/-- What generating a locale does, where there is something to translate and a template for it. -/
theorem writeTarget_of_template {language text : String} {tree : ResourceTree}
    (loaded : (Locale.read (project.localeDir project.config.defaultLocale)).runWith answer
      s = (.ok tree, s))
    (filled : tree.isEmpty = false)
    (there : (Disk.isThere project.templatePath).run answer s = (true, s))
    (held : s.read project.templatePath = .ok text) :
    (Locale.writeTarget project language).runWith answer s =
      (Locale.writeTranslated project language (Template.read text) tree).runWith answer s := by
  have present : (liftM (Disk.isThere project.templatePath) : Job Bool).runWith answer s =
      (.ok true, s) := by
    rw [Job.runWith_lift, there]
  have read : (Job.readFile project.templatePath).runWith answer s = (.ok text, s) := by
    have ran : (Disk.read project.templatePath).run answer s = (.ok text, s) := Prod.ext held rfl
    rw [Job.readFile, Job.runWith_attempt, ran]
  unfold Locale.writeTarget
  rw [Job.runWith_bind_of_ok loaded, filled]
  dsimp only
  rw [if_neg Bool.false_ne_true, Job.runWith_bind_of_ok present]
  exact Job.runWith_bind_of_ok read

private def greeting : List (String × ResourceNode) := [("greeting", .text "好")]

/-- A phrase in a source, and another one in the default locale. -/
private def kept : State := { entries := [
  (["src"], .directory), (["src", "a.js"], .file (.text "'你'")), (["output"], .directory),
  (["output", "lang"], .directory), (["output", "lang", "zh-cn"], .directory),
  (["output", "lang", "zh-cn", "common.js"],
    .file (.text (ResourceNode.group greeting).moduleText))] }

private def alone : Project := { root := ⟨"/"⟩ }

private def bilingual (language : String) : Project where
  root := ⟨"/"⟩
  config := { generateSecondaryLocale := true, secondaryLocale := language }

private theorem kept_proper : kept.Proper where
  distinct := by decide
  named := by
    have checked : ∀ place ∈ kept.entries.map (·.1), ∀ name ∈ place,
      (name ≠ "" ∧ '/' ∉ name.toList ∧
        name ≠ "." ∧ name ≠ "..") ∧ '\x00' ∉ name.toList ∧ name.utf8ByteSize ≤ 255 := by
      decide
    intro place listed name member
    obtain ⟨piece, noEnd, short⟩ := checked place listed name member
    exact ⟨isPiece_of_decide piece, noEnd, short⟩
  closed := by decide
  home := rfl

private theorem kept_separate : (bilingual "en-us").Separate kept ["output", "lang", "zh-cn"] where
  leads := by decide
  seen _ := by decide
  way name _ := by
    have passed : way kept.workingDirectory
        ((bilingual "en-us").localeDir (bilingual "en-us").config.defaultLocale).components =
        [[], [], ["output"], ["output", "lang"], ["output", "lang", "zh-cn"]] := by decide
    simp [passed]
  lang := by
    have passed : way kept.workingDirectory (bilingual "en-us").langDir.components =
        [[], [], ["output"], ["output", "lang"]] := by decide
    exact ⟨fun name _ => by simp [passed], by decide⟩
  secondary _ := by
    have passed : way kept.workingDirectory
        ((bilingual "en-us").localeDir (bilingual "en-us").config.secondaryLocale).components =
        [[], [], ["output"], ["output", "lang"], ["output", "lang", "en-us"]] := by decide
    exact ⟨fun name _ => by simp [passed], by decide⟩

private theorem eq_common_of_kept {name : String}
    (there : kept.entry? (["output", "lang", "zh-cn"] ++ [name]) ≠ none) : name = "common.js" := by
  by_contra other
  refine there ?_
  have differs : (name == "common.js") = false := beq_false_of_ne other
  simp [kept, entry?, List.lookup_cons, differs]

private theorem isName_common : Path.IsName "common.js" where
  toIsPiece := isPiece_of_decide
  noEnd := by decide
  short := by decide

/-- The default locale with one module in it. -/
private theorem read_common {s : State} {members : List (String × ResourceNode)}
    (data : ResourceNode.IsData (.group members))
    (here : s.place (alone.localeDir "zh-cn") = .ok ["output", "lang", "zh-cn"])
    (there : s.entry? ["output", "lang", "zh-cn"] = some .directory)
    (only : s.names ["output", "lang", "zh-cn"] = ["common.js"])
    (held : s.entry? ["output", "lang", "zh-cn", "common.js"] =
      some (.file (.text (ResourceNode.group members).moduleText))) :
    (Locale.read (alone.localeDir "zh-cn")).runWith answer s =
      (.ok { modules := [("Common", .group members)] }, s) := by
  have module : Locale.moduleOf "common.js" = "Common" := by decide
  rw [← module]
  refine Locale.read_of_single here there only isName_common.toIsPiece (by decide) ?_
  exact ⟨_, read_of_place (place_join_name here there isName_common) held,
    ModuleFile.read_of_exported (ModuleFile.parse_moduleText data)⟩

private theorem isData_greeting : ResourceNode.IsData (.group greeting) :=
  .group (by decide) (by simpa [greeting] using .text "好")

private theorem read_kept : (Locale.read (alone.localeDir "zh-cn")).runWith answer kept =
    (.ok { modules := [("Common", .group greeting)] }, kept) :=
  read_common isData_greeting (by decide) (by decide) (by decide) rfl

private theorem kept_legible {existing : ResourceTree}
    (loaded : (Locale.read ((bilingual "en-us").localeDir "zh-cn")).runWith answer kept =
      (.ok existing, kept)) :
    ∀ entry ∈ existing.modules, ResourceNode.IsData entry.2 := by
  obtain rfl := Except.ok.inj (congrArg Prod.fst (read_kept.symm.trans loaded))
  intro entry listed
  obtain rfl := List.mem_singleton.mp listed
  exact isData_greeting

private theorem common_shown : Shown kept ["output", "lang", "zh-cn"] "Common" where
  noSlash := by decide
  faithful := by decide
  latest file there _ other listed _ := by
    obtain rfl := eq_common_of_kept there
    have checked : ∀ other ∈ ["common.js", Locale.moduleFileName (Locale.moduleOf "common.js")],
        other ≤ Locale.moduleFileName "Common" := by decide
    exact checked other listed

/-- What the module holds behind an extraction. -/
private def extended : List (String × ResourceNode) := greeting ++ [("textfog", .text "你")]

private theorem isData_extended : ResourceNode.IsData (.group extended) :=
  .group (by decide) (by simpa [extended, greeting] using ⟨.text "好", .text "你"⟩)

private def blank : Template := { entries := [("你", ""), ("好", "")] }

private theorem read_blank : Template.read blank.render = blank := by
  rw [Template.read, Template.lines_render, Template.renderedLines, List.foldl_append,
    List.foldl_append, Template.foldl_readLine_header]
  decide

/-- Writing the default locale, with the phrase in it. -/
private def emitted : Except Failure Locale.DefaultOutput × State :=
  (Locale.writeDefault alone { modules := [("Common", .group extended)] }).runWith answer kept

private theorem exists_emitted : ∃ output, emitted.1 = .ok output := ⟨_, rfl⟩

/-- What is there before another locale is made. -/
private def settled (snapshot : Snapshot) : State := { entries := [
  (["src"], .directory), (["src", "a.js"], .file (.text "'你'")), (["output"], .directory),
  (["output", "lang"], .directory), (["output", "lang", "zh-cn"], .directory),
  (["output", "lang", "zh-cn", "common.js"],
    .file (.text (ResourceNode.group extended).moduleText)),
  (["output", "lang", "index.js"], .file (.text (Locale.bootstrap "zh-cn"))),
  (["output", "translation-template.txt"], .file (.text blank.render)),
  (["output", "i18n-extracted-1970-01-01_00-00-00.json"], .file (.text snapshot.render))] }

private theorem write_emitted (snapshot : Snapshot) : ∃ file,
    (snapshot.write alone.outputDir kept.clock).runWith answer emitted.2 =
      (.ok file, settled snapshot) :=
  ⟨_, rfl⟩

private def generated (language : String) (snapshot : Snapshot) :
    Except Failure Locale.TargetOutput × State :=
  (Locale.writeTranslated alone language blank { modules := [("Common", .group extended)] }).runWith
    answer (settled snapshot)

private theorem writeTarget_settled {language : String} {output : Locale.TargetOutput}
    {snapshot : Snapshot} (done : (generated language snapshot).1 = .ok output) :
    (Locale.writeTarget alone language).runWith answer (settled snapshot) =
      (.ok output, (generated language snapshot).2) := by
  have there : (Disk.isThere alone.templatePath).run answer (settled snapshot) =
      (true, settled snapshot) := rfl
  have held : (settled snapshot).read alone.templatePath = .ok blank.render := rfl
  rw [writeTarget_of_template (read_common isData_extended rfl rfl rfl rfl) rfl
    there held, read_blank]
  exact Prod.fst_eq_iff.mp done

/-- The phrase in the source. -/
private def phrase : Occurrence where
  locationKey := "src/a.js::file::line:1"
  file := "src/a.js"
  region := .file
  line := 1
  site := .literal
  ordinal := 0
  span := ⟨0, 5⟩
  kind := .plain
  text := "你"
  raw := "'你'"
  captured := []

private theorem extract_alone : ∃ found, (ProjectExtraction.ofFiles (Settings.ofConfig alone.config)
    (alone.scan.run answer kept).1.files).runWith answer kept = (.ok found, kept) ∧
      found.occurrences = [phrase] := by
  obtain ⟨found, ran, only⟩ : ∃ found, ((ProjectExtraction.ofFiles (Settings.ofConfig alone.config)
      (alone.scan.run answer kept).1.files).runWith answer kept).1 = .ok found ∧
        found.occurrences = [phrase] := ok_of_map_toOption (by decide +kernel)
  exact ⟨found, Prod.ext ran (ProjectExtraction.readFiles_state ..), only⟩

/-- Extracting with another locale, where that can be generated. -/
private theorem extract_of_generated {language : String}
    (done : ∀ snapshot, ∃ output, (generated language snapshot).1 = .ok output) :
    ∃ outcome snapshot, (bilingual language).extract.runWith answer kept =
        (.ok outcome, (generated language snapshot).2) ∧
      (bilingual language).snapshot.runWith answer kept = (.ok snapshot, kept) ∧
      snapshot.entries.map (fun entry => (entry.2.key, entry.2.occurrence.text)) =
        [("Common.textfog", "你")] := by
  obtain ⟨found, extracted, only⟩ := extract_alone
  have tree : (alone.assignment { modules := [("Common", .group greeting)] } found).tree =
      { modules := [("Common", .group extended)] } := by
    rw [assignment, only]
    with_unfolding_all rfl
  have entries : (Snapshot.ofExtraction found
      (alone.assignment { modules := [("Common", .group greeting)] } found)
      kept.clock).entries.map (fun entry => (entry.2.key, entry.2.occurrence.text)) =
        [("Common.textfog", "你")] := by
    rw [Snapshot.ofExtraction, assignment, only]
    with_unfolding_all rfl
  obtain ⟨output, emits⟩ := exists_emitted
  have wrote :
      (Locale.writeDefault alone (alone.assignment { modules := [("Common", .group greeting)] }
      found).tree).runWith answer kept = (.ok output, emitted.2) := by
    rw [tree]
    exact Prod.fst_eq_iff.mp emits
  obtain ⟨file, took⟩ := write_emitted (Snapshot.ofExtraction found _ kept.clock)
  obtain ⟨target, generates⟩ := done (Snapshot.ofExtraction found _ kept.clock)
  obtain ⟨outcome, ran⟩ :=
    extract_beside extracted read_kept wrote took (writeTarget_settled generates)
  refine ⟨outcome, _, ran, ?_, entries⟩
  have same : bilingual language = alone.beside language := rfl
  rw [same, snapshot_beside]
  exact snapshot_of_steps extracted read_kept

/-- English beside Chinese: the phrase is there. -/
theorem extract_reads_back_bilingual :
    ∃ outcome t tree, (bilingual "en-us").extract.runWith answer kept = (.ok outcome, t) ∧
      (Locale.read ((bilingual "en-us").localeDir "zh-cn")).runWith answer t = (.ok tree, t) ∧
      tree.text? "Common.textfog" = some "你" := by
  obtain ⟨outcome, known, ran, taken, entries⟩ := @extract_of_generated "en-us" fun _ => ⟨_, rfl⟩
  have shown (snapshot : Snapshot)
      (same : (bilingual "en-us").snapshot.runWith answer kept = (.ok snapshot, kept)) :
      ∀ entry ∈ snapshot.entries, ∀ name, IsModuleOf entry.2.key name →
        Shown kept ["output", "lang", "zh-cn"] name := by
    intro entry listed name isModule
    obtain rfl := Except.ok.inj (congrArg Prod.fst (taken.symm.trans same))
    have listed :=
      List.mem_map_of_mem (f := fun entry => (entry.2.key, entry.2.occurrence.text)) listed
    rw [entries, List.mem_singleton] at listed
    rw [IsModuleOf, (Prod.mk.inj listed).1] at isModule
    have module : (Text.splitDots "Common.textfog").head? = some "Common" := by decide +kernel
    obtain rfl := Option.some.inj (module.symm.trans isModule)
    exact common_shown
  obtain ⟨-, snapshot, tree, -, same, -, read, texts⟩ :=
    extract_reads_back kept_proper kept_separate (fun _ => kept_legible) shown ran
  obtain rfl := Except.ok.inj (congrArg Prod.fst (taken.symm.trans same))
  refine ⟨outcome, _, tree, ran, read, ?_⟩
  obtain ⟨entry, listed, made⟩ :=
    List.mem_map.mp (entries ▸ List.mem_singleton_self ("Common.textfog", "你"))
  have text := texts entry listed
  rwa [(Prod.mk.inj made).1, (Prod.mk.inj made).2] at text

/-- The module whose texts have been replaced by translations that are not there. -/
private def lost : List (String × ResourceNode) := [("greeting", .text ""), ("textfog", .text "")]

/-- Chinese beside Chinese, in capitals: the text is replaced by the translation that is not there.
-/
theorem secondary_overwrites_default : (bilingual "ZH-CN").config.check = .ok () ∧
    ∃ outcome t snapshot tree, (bilingual "ZH-CN").extract.runWith answer kept = (.ok outcome, t) ∧
      ((bilingual "ZH-CN").snapshot.runWith answer kept).1 = .ok snapshot ∧
      ((Locale.read ((bilingual "ZH-CN").localeDir "zh-cn")).runWith answer t).1 = .ok tree ∧
      snapshot.entries.map (fun entry => (entry.2.key, entry.2.occurrence.text)) =
        [("Common.textfog", "你")] ∧ tree.text? "Common.textfog" = some "" := by
  obtain ⟨_, valid, -⟩ : ∃ done, (bilingual "ZH-CN").config.check = .ok done ∧ True :=
    ok_of_mem_toOption (by decide +kernel)
  obtain ⟨outcome, snapshot, ran, taken, entries⟩ := @extract_of_generated "ZH-CN" fun _ => ⟨_, rfl⟩
  have data : ResourceNode.IsData (.group lost) :=
    .group (by decide) (by simpa [lost] using .text "")
  have read := @read_common (generated "ZH-CN" snapshot).2 _ data rfl rfl rfl rfl
  exact ⟨valid, outcome, _, snapshot, _, ran, congrArg Prod.fst taken, congrArg Prod.fst read,
    entries, by decide⟩

end Project
end Phrasebook
