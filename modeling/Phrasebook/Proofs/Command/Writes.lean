import Phrasebook.Command.Execution
import Phrasebook.Proofs.Locale.Translation
import Phrasebook.Proofs.Locale.Store
import Phrasebook.Proofs.Project.Scan

/-!
What an extraction writes, step by step. All that is done after the modules of the default locale
are written keeps away from them, if the directory of that locale has a place of its own.
-/

namespace Phrasebook

open Disk (State Place)
open Disk.State

theorem ProjectExtraction.readFiles_state (settings : Settings) (found : ProjectExtraction)
    (files : List SourceFile) (s : State) :
    ((readFiles settings found files).runWith answer s).2 = s := by
  induction files generalizing found with
  | nil => rfl
  | cons file rest ih =>
    have first : (Disk.read file.path).run answer s = (s.read file.path, s) := rfl
    rw [readFiles, Job.runWith_bind, Job.runWith_lift, first]
    dsimp only
    cases s.read file.path with
    | error fault => exact ih _
    | ok content =>
      dsimp only
      cases found.addContent settings file.relative content file.kind with
      | ok next => exact ih next
      | error failure => rfl

namespace Project

variable {project : Project} {s t : State} {home : Place}

/-- A way on which no directory has a name that a module in the directory would have. -/
def KeepsOff (start home : Place) (path : Path) : Prop :=
  ∀ name, Locale.IsModuleFile name → home ++ [name] ∉ way start path.components

/-- The directory of the default locale has a place of its own: nothing else that extraction makes
is taken for a module there, and what is there already is seen. -/
structure Separate (project : Project) (s : State) (home : Place) : Prop where
  leads : lead s.workingDirectory
    (project.localeDir project.config.defaultLocale).components = .ok home
  seen : s.entry? home ≠ none → s.place (project.localeDir project.config.defaultLocale) = .ok home
  way : KeepsOff s.workingDirectory home (project.localeDir project.config.defaultLocale)
  lang : KeepsOff s.workingDirectory home project.langDir ∧
    lead s.workingDirectory project.langDir.components ≠ .ok home
  secondary : project.config.generateSecondaryLocale = true →
    KeepsOff s.workingDirectory home (project.localeDir project.config.secondaryLocale) ∧
      lead s.workingDirectory
      (project.localeDir project.config.secondaryLocale).components ≠ .ok home

/-- A place that is none of a module in the directory. -/
def Beside (home other : Place) : Prop := ∀ name, Locale.IsModuleFile name → other ≠ home ++ [name]

theorem beside_of_ne {place : Place} (apart : place ≠ home) (name : String) :
    Beside home (place ++ [name]) :=
  fun _ _ same => apart (List.append_inj_left' same rfl)

theorem beside_of_name (place : Place) {name : String} (other : ¬ Locale.IsModuleFile name) :
    Beside home (place ++ [name]) := by
  rintro module isModule same
  obtain rfl : name = module := List.singleton_inj.mp (List.append_inj_right' same rfl)
  exact other isModule

theorem KeepsOff.beside {start other : Place} {path : Path} (off : KeepsOff start home path)
    (passed : other ∈ way start path.components) : Beside home other := by
  rintro name isModule rfl
  exact off name isModule passed

theorem KeepsOff.mono {start : Place} {path longer : Path} (off : KeepsOff start home longer)
    (part : path.components <+: longer.components) : KeepsOff start home path :=
  fun name isModule passed => off name isModule (mem_way_of_isPrefix part passed)

theorem not_isModuleFile_append (front : String) {extension : String}
    (noDot : '.' ∉ extension.toList) (more : extension ≠ "") (other : extension ≠ "js") :
    ¬ Locale.IsModuleFile (front ++ ("." ++ extension)) := by
  rw [Locale.IsModuleFile, Path.splitExtension_append noDot more]
  split
  · exact nofun
  · exact fun same => other (Option.some.inj same)

theorem createDirectory_beside {directory : Path} (off : KeepsOff s.workingDirectory home directory)
    (done : (Job.createDirectory directory).runWith answer s = (.ok (), t)) :
    Within (Beside home) s t := by
  obtain ⟨_, -, -, within, -⟩ := createDirectory_spec done
  exact within.mono fun other changed => off.beside changed.1

/-- A file in another directory, or one with another name. -/
theorem writeFile_beside {directory : Path} {name content : String} (isPiece : Path.IsPiece name)
    (apart : lead s.workingDirectory directory.components ≠ .ok home ∨ ¬ Locale.IsModuleFile name)
    (done : (Job.writeFile (directory.join ⟨name⟩) content).runWith answer s = (.ok (), t)) :
    Within (Beside home) s t := by
  obtain ⟨place, goes, -, within⟩ := writeFile_spec done
  obtain ⟨above, leads, rfl⟩ := lead_join_name directory isPiece goes
  refine within.mono ?_
  rintro other rfl
  rcases apart with apart | other
  · exact beside_of_ne (fun same => apart (leads.trans (congrArg _ same))) name
  · exact beside_of_name above other

theorem isPiece_of_decide {name : String}
    (check : (name ≠ "" ∧ '/' ∉ name.toList ∧ name ≠ "." ∧ name ≠ "..") := by decide) :
    Path.IsPiece name :=
  ⟨check.1, check.2.1, check.2.2.1, check.2.2.2⟩

theorem components_langDir (project : Project) :
    project.langDir.components = project.outputDir.components ++ [.normal "lang"] :=
  Path.components_join_name _ isPiece_of_decide

theorem lift_isThere {path : Path} {answered : Bool}
    (done : (liftM (Disk.isThere path) : Job Bool).runWith answer s = (.ok answered, t)) : t = s :=
  (Prod.mk.inj (Job.lift_ok done)).2.symm

theorem writeBootstrap_beside {written : Bool}
    (off : KeepsOff s.workingDirectory home project.langDir)
    (apart : lead s.workingDirectory project.langDir.components ≠ .ok home)
    (done : (Locale.writeBootstrap project).runWith answer s = (.ok written, t)) :
    Within (Beside home) s t := by
  obtain ⟨there, middle, asked, rest⟩ := Job.bind_ok done
  obtain rfl := lift_isThere asked
  split at rest
  · obtain ⟨-, rfl⟩ := Prod.mk.inj rest
    exact .refl _ _
  · obtain ⟨_, created, first, rest⟩ := Job.bind_ok rest
    obtain ⟨_, _, second, rest⟩ := Job.bind_ok rest
    obtain ⟨-, rfl⟩ := Prod.mk.inj rest
    have within := createDirectory_beside off first
    exact within.trans (writeFile_beside isPiece_of_decide (.inl (within.home.symm ▸ apart)) second)

theorem mergedTemplate_state {file : Path} {tree : ResourceTree} {merged : Template}
    (done : (Locale.mergedTemplate file tree).runWith answer s = (.ok merged, t)) : t = s := by
  obtain ⟨there, middle, asked, rest⟩ := Job.bind_ok done
  obtain rfl := lift_isThere asked
  split at rest
  · obtain ⟨text, next, read, rest⟩ := Job.bind_ok rest
    obtain ⟨-, rfl⟩ := Prod.mk.inj (Job.attempt_ok read)
    exact (Prod.mk.inj rest).2.symm
  · exact (Prod.mk.inj rest).2.symm

theorem writeTemplate_beside {tree : ResourceTree}
    (off : KeepsOff s.workingDirectory home project.langDir)
    (done : (Locale.writeTemplate project tree).runWith answer s = (.ok (), t)) :
    Within (Beside home) s t := by
  have name : Path.IsPiece "translation-template.txt" := isPiece_of_decide
  have other : ¬ Locale.IsModuleFile "translation-template.txt" :=
    @not_isModuleFile_append "translation-template" "txt" (by decide) (by decide) (by decide)
  obtain ⟨merged, middle, read, rest⟩ := Job.bind_ok done
  obtain rfl := mergedTemplate_state read
  obtain ⟨parent, above, components⟩ := Path.parent?_join_name project.outputDir name
  have place : project.templatePath.parent? = some parent := above
  dsimp only at rest
  rw [place] at rest
  obtain ⟨_, created, first, rest⟩ := Job.bind_ok rest
  have out : KeepsOff middle.workingDirectory home parent := off.mono (by
    rw [components, components_langDir]
    exact List.prefix_append ..)
  exact (createDirectory_beside out first).trans (writeFile_beside name (.inr other) rest)

/-- What is written behind the modules of the default locale, before the snapshot. -/
theorem writeDefault_spec {tree : ResourceTree} {output : Locale.DefaultOutput}
    (off : KeepsOff s.workingDirectory home project.langDir)
    (apart : lead s.workingDirectory project.langDir.components ≠ .ok home)
    (done : (Locale.writeDefault project tree).runWith answer s = (.ok output, t)) :
    ∃ files middle,
      (Locale.write (project.localeDir project.config.defaultLocale) tree).runWith answer s =
        (.ok files, middle) ∧
        (middle.workingDirectory = s.workingDirectory → Within (Beside home) middle t) := by
  obtain ⟨files, middle, written, rest⟩ := Job.bind_ok done
  refine ⟨files, middle, written, fun start => ?_⟩
  obtain ⟨_, next, first, rest⟩ := Job.bind_ok rest
  obtain ⟨_, _, second, rest⟩ := Job.bind_ok rest
  obtain ⟨-, rfl⟩ := Prod.mk.inj rest
  rw [← start] at off apart
  have within := writeBootstrap_beside off apart first
  exact within.trans (writeTemplate_beside (within.home.symm ▸ off) second)

theorem snapshot_isAbsolute (time : Instant) :
    Path.isAbsolute ⟨Snapshot.fileName time⟩ = false := by
  simp [Path.isAbsolute, Snapshot.fileName, Snapshot.fileStart]

/-- The file of a snapshot, which is no module. -/
theorem snapshot_write_spec {snapshot : Snapshot} {directory file : Path} {time : Instant}
    (off : KeepsOff s.workingDirectory home directory)
    (done : (snapshot.write directory time).runWith answer s = (.ok file, t)) :
    Within (Beside home) s t ∧ ∃ above name, t.place file = .ok (above ++ [name ++ ".json"]) ∧
      t.entry? (above ++ [name ++ ".json"]) = some (.file (.text snapshot.render)) := by
  obtain ⟨_, middle, created, rest⟩ := Job.bind_ok done
  obtain ⟨_, next, filled, rest⟩ := Job.bind_ok rest
  obtain ⟨same, rfl⟩ := Prod.mk.inj rest
  obtain rfl := Except.ok.inj same
  have first := createDirectory_beside off created
  obtain ⟨place, found, rfl, noDirectory, -⟩ := fill_spec (fill_of_writeFile filled)
  have some := filled_of_entry noDirectory
  have second := @within_put middle place (.file (.text snapshot.render)) some noDirectory
  obtain ⟨above, name, rfl⟩ :=
    lead_join_append directory (by decide) (by decide) (snapshot_isAbsolute time)
    (lead_of_place found)
  refine ⟨first.trans (second.mono ?_), above, name, second.place_eq found, ?_⟩
  · rintro other rfl
    exact beside_of_name above
      (@not_isModuleFile_append name "json" (by decide) (by decide) (by decide))
  · rw [entry_put some, if_pos rfl]

theorem mapTexts_names (f : String → String → String) (tree : ResourceTree) :
    (tree.mapTexts f).modules.map (·.1) = tree.modules.map (·.1) := by
  simp [ResourceTree.mapTexts]

theorem writeMissing_spec {language : String} {missing : List MissingTranslation}
    {report : Option Path}
    (done : (Locale.writeMissing project language missing).runWith answer s = (.ok report, t)) :
    Within (fun other => ∃ above name, other = above ++ [name ++ ".md"]) s t := by
  unfold Locale.writeMissing at done
  split at done
  · obtain ⟨-, rfl⟩ := Prod.mk.inj done
    exact .refl _ s
  · obtain ⟨_, _, filled, rest⟩ := Job.bind_ok done
    obtain ⟨-, rfl⟩ := Prod.mk.inj rest
    obtain ⟨place, goes, -, within⟩ := writeFile_spec filled
    have relative :
        Path.isAbsolute ⟨"missing-translations-" ++ Text.lowercase language ++ ".md"⟩ = false := by
      simp [Path.isAbsolute]
    obtain ⟨above, name, rfl⟩ :=
      lead_join_append project.outputDir (by decide) (by decide) relative goes
    exact within.mono fun other same => ⟨above, name, same⟩

/-- What generating a locale from the default one can change: directories on the way and module
files in another place than that of the default one, and a report. -/
theorem writeTarget_spec {language : String} {output : Locale.TargetOutput} (proper : s.Proper)
    (done : (Locale.writeTarget project language).runWith answer s = (.ok output, t)) :
    ∃ place, lead s.workingDirectory (project.localeDir language).components = .ok place ∧
      Within (fun other =>
        (other ∈ way s.workingDirectory (project.localeDir language).components ∧ Free s other ∨
          ∃ name, other = place ++ [Locale.moduleFileName name]) ∨
        ∃ above name, other = above ++ [name ++ ".md"]) s t := by
  obtain ⟨tree, middle, read, rest⟩ := Job.bind_ok done
  obtain ⟨rfl, -, -, modules⟩ := Locale.read_ok proper read
  split at rest
  · obtain ⟨_, _, failed, -⟩ := Job.bind_ok rest
    cases (Prod.mk.inj failed).1
  · obtain ⟨there, next, asked, more⟩ := Job.bind_ok rest
    obtain rfl := lift_isThere asked
    split at more
    · obtain ⟨_, _, failed, -⟩ := Job.bind_ok more
      cases (Prod.mk.inj failed).1
    · obtain ⟨text, _, read, writing⟩ := Job.bind_ok more
      obtain ⟨-, rfl⟩ := Prod.mk.inj (Job.attempt_ok read)
      rw [Locale.writeTranslated, Template.translateTree_eq] at writing
      obtain ⟨files, written, wrote, reporting⟩ := Job.bind_ok writing
      obtain ⟨report, last, reported, end_⟩ := Job.bind_ok reporting
      obtain ⟨-, rfl⟩ := Prod.mk.inj end_
      have plain : ∀ entry ∈ ((Template.read text).translate tree).modules,
          '/' ∉ entry.1.toList := by
        intro entry listed
        have named : entry.1 ∈ tree.modules.map (·.1) :=
          mapTexts_names _ tree ▸ List.mem_map_of_mem listed
        obtain ⟨source, member, same⟩ := List.mem_map.mp named
        obtain ⟨_, name, _, -, stands, -, -, rfl⟩ := modules source member
        exact same ▸ Locale.slash_not_mem_moduleOf (proper.isName (mem_names.mpr stands)).noSlash
      obtain ⟨place, walked, -, -, -, within⟩ := Locale.write_spec plain wrote
      refine ⟨place, within.home ▸ lead_of_walk walked, ?_⟩
      refine (within.mono fun other changed => .inl ?_).trans
        ((writeMissing_spec reported).mono fun _ => .inr)
      exact changed.imp_right fun ⟨entry, _, same⟩ => ⟨entry.1, same⟩

/-- The modules of the default locale and the snapshots stay as they are when another locale is
made. -/
theorem writeTarget_beside {language : String} {output : Locale.TargetOutput} (proper : s.Proper)
    (off : KeepsOff s.workingDirectory home (project.localeDir language))
    (apart : lead s.workingDirectory (project.localeDir language).components ≠ .ok home)
    (done : (Locale.writeTarget project language).runWith answer s = (.ok output, t)) :
    Within (fun other => Beside home other ∧ ∀ above name, other = above ++
      [name ++ ".json"] → Free s other) s t := by
  obtain ⟨place, leads, within⟩ := writeTarget_spec proper done
  have last (name : String) : (name ++ ".json").toList.getLast? = some 'n' := by simp
  refine within.mono fun other changed => ?_
  rcases changed with (⟨passed, free⟩ | ⟨name, rfl⟩) | ⟨above, name, rfl⟩
  · exact ⟨off.beside passed, fun _ _ _ => free⟩
  · refine ⟨beside_of_ne (fun same => apart (leads.trans (congrArg _ same))) _,
      fun front json same => ?_⟩
    have other := last json
    rw [← List.singleton_inj.mp (List.append_inj_right' same rfl)] at other
    simp [Locale.moduleFileName] at other
  · refine ⟨beside_of_name above
      (@not_isModuleFile_append name "md" (by decide) (by decide) (by decide)),
      fun front json same => ?_⟩
    have other := last json
    rw [← List.singleton_inj.mp (List.append_inj_right' same rfl)] at other
    simp at other

/-- The keys that a project gets, where the default locale held this tree. -/
def assignment (project : Project) (existing : ResourceTree)
    (found : ProjectExtraction) : Assignment :=
  ((Key.Assigner.ofRules (Key.Rules.ofConfig project.config)).withExisting existing).assign
    found.occurrences

theorem runWith_time : (liftM Disk.time : Job Instant).runWith answer s = (.ok s.clock, s) :=
  Job.runWith_lift answer _ s

theorem runWith_scan (project : Project) (s : State) :
    (liftM project.scan : Job Scan).runWith answer s = (.ok (project.scan.run answer s).1, s) := by
  rw [Job.runWith_lift, project.scan_reads.state s]

/-- The snapshot of a project, as an extraction takes it. -/
def snapshot (project : Project) : Job Snapshot := do
  let time ← (Disk.time : Job _)
  let scan ← (project.scan : Job _)
  let found ← ProjectExtraction.ofFiles (Settings.ofConfig project.config) scan.files
  let existing ← Locale.read (project.localeDir project.config.defaultLocale)
  return Snapshot.ofExtraction found (project.assignment existing found) time

theorem snapshot_of_steps {found : ProjectExtraction} {existing : ResourceTree}
    (extracted : (ProjectExtraction.ofFiles (Settings.ofConfig project.config)
      (project.scan.run answer s).1.files).runWith answer s = (.ok found, s))
    (loaded : (Locale.read (project.localeDir project.config.defaultLocale)).runWith answer s =
      (.ok existing, s)) :
    project.snapshot.runWith answer s =
      (.ok (Snapshot.ofExtraction found (project.assignment existing found) s.clock), s) := by
  rw [snapshot, Job.runWith_bind_of_ok runWith_time, Job.runWith_bind_of_ok (runWith_scan _ s),
    Job.runWith_bind_of_ok extracted, Job.runWith_bind_of_ok loaded]
  rfl

/-- The steps of an extraction that succeeds. -/
theorem extract_steps {outcome : Command.Outcome} (proper : s.Proper)
    (done : project.extract.runWith answer s = (.ok outcome, t)) :
    ∃ found existing output written file taken summary,
      (ProjectExtraction.ofFiles (Settings.ofConfig project.config)
        (project.scan.run answer s).1.files).runWith answer s = (.ok found, s) ∧
      (Locale.read (project.localeDir project.config.defaultLocale)).runWith answer s =
        (.ok existing, s) ∧
      (Locale.writeDefault project (project.assignment existing found).tree).runWith answer s =
        (.ok output, written) ∧
      ((Snapshot.ofExtraction found (project.assignment existing found) s.clock).write
        project.outputDir s.clock).runWith answer written = (.ok file, taken) ∧
      (project.config.generateSecondaryLocale = false ∧ t = taken ∨
        project.config.generateSecondaryLocale = true ∧ ∃ target,
          (Locale.writeTarget project project.config.secondaryLocale).runWith answer taken =
            (.ok target, t)) ∧
      outcome.summary = .extracted summary ∧ summary.snapshotFile = file := by
  obtain ⟨time, start, timed, scanning⟩ := Job.bind_ok done
  obtain ⟨rfl, rfl⟩ := Prod.mk.inj (Job.lift_ok timed)
  obtain ⟨scan, scanned, ran, extracting⟩ := Job.bind_ok scanning
  have ran := Job.lift_ok ran
  obtain rfl : s = scanned := (project.scan_reads.state s).symm.trans (congrArg Prod.snd ran)
  obtain rfl : (project.scan.run answer s).1 = scan := congrArg Prod.fst ran
  obtain ⟨found, read, extracted, reading⟩ := Job.bind_ok extracting
  obtain rfl : s = read :=
    (ProjectExtraction.readFiles_state ..).symm.trans (congrArg Prod.snd extracted)
  obtain ⟨existing, known, loaded, writing⟩ := Job.bind_ok reading
  obtain ⟨rfl, -⟩ := Locale.read_ok proper loaded
  obtain ⟨output, written, wrote, taking⟩ := Job.bind_ok writing
  obtain ⟨file, taken, took, more⟩ := Job.bind_ok taking
  split at more
  · rename_i asked
    obtain ⟨secondary, last, target, finish⟩ := Job.bind_ok more
    obtain ⟨same, rfl⟩ := Prod.mk.inj finish
    obtain ⟨output, _, generated, kept⟩ := Job.bind_ok target
    obtain ⟨-, rfl⟩ := Prod.mk.inj kept
    exact ⟨found, existing, _, written, file, taken, _, extracted, loaded, wrote, took,
      .inr ⟨asked, output, generated⟩, by rw [← Except.ok.inj same], rfl⟩
  · rename_i unasked
    obtain ⟨secondary, last, nothing, finish⟩ := Job.bind_ok more
    obtain ⟨-, rfl⟩ := Prod.mk.inj nothing
    obtain ⟨same, rfl⟩ := Prod.mk.inj finish
    exact ⟨found, existing, output, written, file, _, _, extracted, loaded, wrote, took,
      .inl ⟨by simpa using unasked, rfl⟩, by rw [← Except.ok.inj same], rfl⟩

/-- An extraction that makes another locale succeeds where its steps do. -/
theorem extract_of_steps {found : ProjectExtraction} {existing : ResourceTree}
    {output : Locale.DefaultOutput} {target : Locale.TargetOutput} {file : Path}
    {written taken : State} (asked : project.config.generateSecondaryLocale = true)
    (extracted : (ProjectExtraction.ofFiles (Settings.ofConfig project.config)
      (project.scan.run answer s).1.files).runWith answer s = (.ok found, s))
    (loaded : (Locale.read (project.localeDir project.config.defaultLocale)).runWith answer s =
      (.ok existing, s))
    (wrote : (Locale.writeDefault project (project.assignment existing found).tree).runWith answer
      s = (.ok output, written))
    (took : ((Snapshot.ofExtraction found (project.assignment existing found) s.clock).write
      project.outputDir s.clock).runWith answer written = (.ok file, taken))
    (generated : (Locale.writeTarget project project.config.secondaryLocale).runWith answer taken =
      (.ok target, t)) :
    ∃ outcome, project.extract.runWith answer s = (.ok outcome, t) := by
  have secondary :
    (some <$> Locale.writeTarget project project.config.secondaryLocale).runWith answer taken =
      (.ok (some target), t) := by
    rw [map_eq_pure_bind]
    exact Job.runWith_bind_of_ok generated
  unfold assignment at wrote took
  unfold extract
  rw [Job.runWith_bind_of_ok runWith_time, Job.runWith_bind_of_ok (runWith_scan _ s),
    Job.runWith_bind_of_ok extracted, Job.runWith_bind_of_ok loaded, Job.runWith_bind_of_ok wrote,
    Job.runWith_bind_of_ok took, if_pos asked, Job.runWith_bind_of_ok secondary]
  exact ⟨_, rfl⟩

end Project
end Phrasebook
