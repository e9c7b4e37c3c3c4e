import Phrasebook.Proofs.Disk.Refusal
import Phrasebook.Proofs.Extraction.File
import Phrasebook.Proofs.Project.Relative
import Phrasebook.Project.Scan
import Phrasebook.Rewriting.Project

/-!
Rewriting of a project on a disk that may refuse any request. Up to the last backup nothing is
overwritten that was there; behind it every content that is overwritten is in the backup, and stays
there.
-/

namespace Phrasebook.Rewriting

open Disk (State Place Event Request Fault)
open Disk.State

variable {project : Project} {time : Instant} {s t u : State} {events : List Event}
  {files : List String} {file : String}

/-- Where a file of the project stands. -/
def sourcePath (project : Project) (file : String) : Path := project.root.join ⟨file⟩

/-- Where its content is kept when the project is rewritten at a time. -/
def savedPath (project : Project) (time : Instant) (file : String) : Path :=
  (backupDir project time).join ⟨file⟩

/-- Files that stand below the root of the project, and neither where backups are kept nor where
output goes. -/
structure InTree (project : Project) (home : Place) (files : List String) : Prop where
  inner : ∀ file ∈ files, Path.IsInner ⟨file⟩
  outside : ∀ file ∈ files, ∀ directory ∈ [project.backupDir, project.outputDir], ∀ above place,
    lead home directory.components = .ok above →
    lead home (sourcePath project file).components = .ok place →
      ¬ above <+: place

/-- A place that the path of one of these files leads to. -/
def SourcePlace (project : Project) (home : Place) (files : List String) (place : Place) : Prop :=
  ∃ file ∈ files, lead home (sourcePath project file).components = .ok place

/-- A place where the content of one of these files is kept. -/
def SavedPlace (project : Project) (time : Instant) (home : Place) (files : List String)
    (place : Place) : Prop :=
  ∃ file ∈ files, lead home (savedPath project time file).components = .ok place

theorem isPiece_backup (time : Instant) : Path.IsPiece ("backup-" ++ time.fileText) where
  filled := by simp
  noSlash := by simp [Instant.slash_not_mem_fileText]
  noDot same := by simpa using congrArg (·.toList.head?) same
  noDots same := by simpa using congrArg (·.toList.head?) same

/-- What is kept of a file stands below the directory for backups. -/
theorem InTree.saved_below {home place : Place} (inner : Path.IsInner ⟨file⟩)
    (led : lead home (savedPath project time file).components = .ok place) :
    ∃ above, lead home project.backupDir.components = .ok above ∧ above <+: place := by
  obtain ⟨middle, names, leads, -, rfl⟩ := lead_join_inner inner led
  obtain ⟨above, outer, rfl⟩ := lead_join_name project.backupDir (isPiece_backup time) leads
  exact ⟨above, outer, by rw [List.append_assoc]; exact List.prefix_append ..⟩

/-- No file stands where the content of one is kept. -/
theorem InTree.apart {home place : Place} (tree : InTree project home files) (listed : file ∈ files)
    (led : lead home (sourcePath project file).components = .ok place) :
    ¬ SavedPlace project time home files place := by
  rintro ⟨other, member, saved⟩
  obtain ⟨above, leads, below⟩ := InTree.saved_below (tree.inner other member) saved
  exact tree.outside file listed _ List.mem_cons_self above place leads led below

theorem InTree.saved_injective {home place : Place} {other : String}
    (tree : InTree project home files) (first : file ∈ files) (second : other ∈ files)
    (led : lead home (savedPath project time file).components = .ok place)
    (led' : lead home (savedPath project time other).components = .ok place) : file = other :=
  congrArg Path.text (lead_join_inner_injective (tree.inner _ first) (tree.inner _ second) led led')

theorem InTree.source_injective {home place : Place} {other : String}
    (tree : InTree project home files) (first : file ∈ files) (second : other ∈ files)
    (led : lead home (sourcePath project file).components = .ok place)
    (led' : lead home (sourcePath project other).components = .ok place) : file = other :=
  congrArg Path.text (lead_join_inner_injective (tree.inner _ first) (tree.inner _ second) led led')

theorem InTree.mono {home : Place} {fewer : List String} (tree : InTree project home files)
    (part : fewer ⊆ files) : InTree project home fewer :=
  ⟨fun file listed => tree.inner file (part listed), fun file listed =>
    tree.outside file (part listed)⟩

/-- Nothing has changed but these places and what was free. -/
def Grows (places : Place → Prop) (s t : State) : Prop :=
  Within (fun place => Free s place ∨ places place) s t

variable {places more : Place → Prop}

theorem Grows.refl (places : Place → Prop) (s : State) : Grows places s s := Within.refl _ s

theorem Grows.mono (grows : Grows places s t)
    (wider : ∀ place, places place → more place) : Grows more s t :=
  Within.mono grows fun place => Or.imp_right (wider place)

theorem Grows.trans (first : Grows places s t) (second : Grows places t u) : Grows places s u := by
  refine Within.trans first (Within.mono second ?_)
  rintro place (free | changed)
  · by_contra same
    exact same (.inl ((first.kept place same).symm.trans free))
  · exact .inr changed

theorem Grows.content (grows : Grows places s t) {path : Path} {content : Disk.Content}
    (held : s.content path = .ok content)
    (off : ∀ place, lead s.workingDirectory path.components = .ok place → ¬ places place) :
    t.content path = .ok content := by
  refine Within.content grows held fun place leads there => ?_
  rintro (free | changed)
  · cases there.symm.trans free
  · exact off place leads changed

theorem grows_of_spoils {path : Path} (spoils : t = s ∨ s.Spoils path t) :
    Grows (fun place => lead s.workingDirectory path.components = .ok place) s t := by
  rcases spoils with rfl | spoils
  · exact .refl _ _
  · exact spoils.within.mono fun place => .inr

/-- A file that is copied to another place is there with its content. -/
theorem content_of_copy {source target : Path} {content : Disk.Content}
    (copied : s.copy source target = .ok t) (held : s.content source = .ok content)
    (apart : ∀ place, lead s.workingDirectory source.components = .ok place →
      lead s.workingDirectory target.components ≠ .ok place) : t.content target = .ok content := by
  obtain ⟨start, found, -⟩ := content_eq_ok.mp held
  unfold State.copy at copied
  rw [held, found] at copied
  cases aimed : s.place target with
  | error fault => rw [aimed] at copied; cases copied
  | ok goal =>
    rw [aimed] at copied
    change (if start = goal then s.fill target (.text "") else s.fill target content) =
      .ok t at copied
    have other : start ≠ goal := by
      rintro rfl
      exact apart start (lead_of_place found) (lead_of_place aimed)
    rw [if_neg other] at copied
    obtain ⟨place, there, rfl, noDirectory, -⟩ := fill_spec copied
    have filled := filled_of_entry noDirectory
    refine content_eq_ok.mpr ⟨place, (within_put filled noDirectory).place_eq there, ?_⟩
    rw [entry_put filled, if_pos rfl]

/-- No file is written. -/
def Quiet (events : List Event) : Prop :=
  ∀ event ∈ events, ∀ path content, event.request ≠ .write path content

theorem quiet_nil : Quiet [] := nofun

theorem Quiet.append {more : List Event} (first : Quiet events) (second : Quiet more) :
    Quiet (events ++ more) :=
  List.forall_mem_append.mpr ⟨first, second⟩

theorem createDirectory_passes {directory : Path}
    (passes : (Job.createDirectory directory).Passes s events t) :
    Grows places s t ∧ Quiet events := by
  obtain ⟨rest, runs⟩ := Job.passes_attempt passes
  rcases Disk.Action.runs_request runs with ⟨rfl, -, rfl⟩ | ⟨answer, served, rfl, -⟩
  · exact ⟨.refl _ _, quiet_nil⟩
  · exact ⟨served.createDirectory_within.mono fun place =>
      .inl, List.forall_mem_singleton.mpr nofun⟩

theorem writeFile_passes {path : Path} {content : String}
    (passes : (Job.writeFile path content).Passes s events t) :
    Grows (fun place => lead s.workingDirectory path.components = .ok place) s t := by
  obtain ⟨rest, runs⟩ := Job.passes_attempt passes
  rcases Disk.Action.runs_request runs with ⟨-, -, rfl⟩ | ⟨answer, served, -, -⟩
  · exact .refl _ _
  · exact grows_of_spoils served.write_cases

theorem backUp_passes (listed : file ∈ files)
    (passes : (backUp project (backupDir project time) file).Passes s events t) :
    Grows (SavedPlace project time s.workingDirectory files) s t ∧ Quiet events := by
  have copies {u : State} {events : List Event}
      (passes : (Job.attempt (.backUp (sourcePath project file) (savedPath project time file))
        (Disk.copy (sourcePath project file) (savedPath project time file))).Passes u events t)
      (home : u.workingDirectory = s.workingDirectory) :
      Grows (SavedPlace project time s.workingDirectory files) u t ∧ Quiet events := by
    obtain ⟨rest, runs⟩ := Job.passes_attempt passes
    rcases Disk.Action.runs_request runs with ⟨rfl, -, rfl⟩ | ⟨answer, served, rfl, -⟩
    · exact ⟨.refl _ _, quiet_nil⟩
    · refine ⟨(grows_of_spoils served.copy_cases).mono fun place leads =>
        ?_, List.forall_mem_singleton.mpr nofun⟩
      exact ⟨file, listed, home ▸ leads⟩
  unfold backUp at passes
  dsimp only at passes
  split at passes
  · rcases passes.of_bind with first | ⟨_, u, front, back, first, second, rfl⟩
    · exact createDirectory_passes first
    · have created : Grows (SavedPlace project time s.workingDirectory files) s u ∧ Quiet front :=
        createDirectory_passes first.passes
      obtain ⟨grows, quiet⟩ := created
      obtain ⟨more, others⟩ := copies second grows.home
      exact ⟨grows.trans more, quiet.append others⟩
  · exact copies passes rfl

/-- The original content of a file is where it was. -/
def Kept (project : Project) (s t : State) (file : String) : Prop :=
  ∀ content, s.content (sourcePath project file) = .ok content →
    t.content (sourcePath project file) = .ok content

/-- The original content of a file is in the backup. -/
def Saved (project : Project) (time : Instant) (s t : State) (file : String) : Prop :=
  ∀ content, s.content (sourcePath project file) = .ok content →
    t.content (savedPath project time file) = .ok content

/-- A file was copied to the backup. -/
def Copied (project : Project) (time : Instant) (events : List Event) (file : String) : Prop :=
  ⟨.copy (sourcePath project file) (savedPath project time file), .ok ()⟩ ∈ events

theorem InTree.kept (tree : InTree project s.workingDirectory files) (listed : file ∈ files)
    (grows : Grows (SavedPlace project time s.workingDirectory files) s t) :
    Kept project s t file :=
  fun _ held => grows.content held fun _ leads => tree.apart listed leads

theorem backUp_ends (tree : InTree project s.workingDirectory files) (listed : file ∈ files)
    (ends : (backUp project (backupDir project time) file).Ends s events (.ok ()) t) :
    Copied project time events file ∧ Saved project time s t file := by
  have copies {u : State} {events : List Event}
      (ends : (Job.attempt (.backUp (sourcePath project file) (savedPath project time file))
        (Disk.copy (sourcePath project file) (savedPath project time file))).Ends u
          events (.ok ()) t)
      (grows : Grows (SavedPlace project time s.workingDirectory files) s u) :
      Copied project time events file ∧ Saved project time s t file := by
    rcases Disk.Action.runs_request (Job.ends_attempt ends)
      with ⟨-, none, -⟩ | ⟨answer, served, rfl, same⟩
    · cases none
    · obtain rfl := Disk.Action.done.inj same
      refine ⟨List.mem_singleton_self _, fun content held => ?_⟩
      refine content_of_copy served.copy_ok (tree.kept listed grows content held)
        fun place leads saved => ?_
      rw [grows.home] at leads saved
      exact tree.apart listed leads ⟨file, listed, saved⟩
  unfold backUp at ends
  dsimp only at ends
  split at ends
  · obtain ⟨_, u, front, back, first, second, rfl⟩ := ends.of_bind
    obtain ⟨copied, saved⟩ := copies second (createDirectory_passes first.passes).1
    exact ⟨List.mem_append_right _ copied, saved⟩
  · exact copies ends (.refl _ _)

theorem backUps_passes {part : List String} (subset : part ⊆ files)
    (passes : (part.forM (backUp project (backupDir project time))).Passes s events t) :
    Grows (SavedPlace project time s.workingDirectory files) s t ∧ Quiet events := by
  induction part generalizing s events with
  | nil =>
    obtain ⟨rfl, rfl⟩ := Job.passes_pure passes
    exact ⟨.refl _ _, quiet_nil⟩
  | cons file rest ih =>
    have listed : file ∈ files := subset List.mem_cons_self
    have passes : (backUp project (backupDir project time) file >>= fun _ =>
      rest.forM (backUp project (backupDir project time))).Passes s events t := passes
    rcases passes.of_bind with first | ⟨_, u, front, back, first, others, rfl⟩
    · exact backUp_passes listed first
    · obtain ⟨grows, quiet⟩ := backUp_passes listed first.passes
      obtain ⟨more, silent⟩ := ih (fun _ member => subset (List.mem_cons_of_mem _ member)) others
      rw [grows.home] at more
      exact ⟨grows.trans more, quiet.append silent⟩

/-- Behind the backups the original content of each file is there; none of them overwrites another.
-/
theorem backUps_end {part : List String} (tree : InTree project s.workingDirectory files)
    (subset : part ⊆ files)
    (ends : (part.forM (backUp project (backupDir project time))).Ends s events (.ok ()) t) :
    ∀ file ∈ part, Copied project time events file ∧ Saved project time s t file := by
  induction part generalizing s events with
  | nil => exact nofun
  | cons file rest ih =>
    have rest_subset : rest ⊆ files := fun _ member => subset (List.mem_cons_of_mem _ member)
    have listed : file ∈ files := subset List.mem_cons_self
    have ends : (backUp project (backupDir project time) file >>= fun _ =>
      rest.forM (backUp project (backupDir project time))).Ends s events (.ok ()) t := ends
    obtain ⟨_, u, front, back, first, others, rfl⟩ := ends.of_bind
    obtain ⟨copied, saved⟩ := backUp_ends tree listed first
    obtain ⟨grows, -⟩ := backUp_passes listed first.passes
    have later := ih (grows.home.symm ▸ tree) rest_subset others
    intro other member
    by_cases again : other ∈ rest
    · obtain ⟨copied, saved⟩ := later other again
      refine ⟨List.mem_append_right _ copied, fun content held => saved content ?_⟩
      exact tree.kept (rest_subset again) grows content held
    · obtain rfl := (List.mem_cons.mp member).resolve_right again
      refine ⟨List.mem_append_left _ copied, fun content held => ?_⟩
      have more := backUps_passes (List.Subset.refl rest) others.passes
      refine more.1.content (saved content held) ?_
      rintro place leads ⟨next, inRest, goes⟩
      rw [grows.home] at leads goes
      exact again (tree.saved_injective listed (rest_subset inRest) leads goes ▸ inRest)

/-- Either a file stays as it is, or what it becomes follows from what is read of it. -/
theorem rewriteFile_cases (project : Project) (file : String) (entries : List SnapshotEntry) :
    (∃ outcome, rewriteFile project file entries =
      pure (unchanged project.config.calls file entries outcome)) ∨
    ∃ next : Except Fault String → Except Phrasebook.Failure FileRewrite,
        rewriteFile project file entries = (do
          let answer ← (liftM (Disk.read (sourcePath project file)) : Job _)
          ExceptT.mk (pure (next answer))) ∧
        FileKind.ofPath? (sourcePath project file) ≠ none ∧
        ∀ answer rewrite, next answer = .ok rewrite → rewrite.record.file = file := by
  unfold rewriteFile
  dsimp only
  split
  · exact .inl ⟨_, rfl⟩
  · split
    · exact .inl ⟨_, rfl⟩
    · rename_i kind found
      let next (answer : Except Fault String) : Except Phrasebook.Failure FileRewrite :=
        Except.rec
          (fun fault =>
            .ok (unchanged project.config.calls file entries (.failed (.unreadable fault.message))))
          (fun content => (rewriteContent project file content kind entries).elim
            (.error (.misaligned file)) .ok)
          answer
      refine .inr
        ⟨next, ?_, by rw [sourcePath, found]; exact nofun, fun answer rewrite planned => ?_⟩
      · refine congrArg (liftM (Disk.read (sourcePath project file)) >>= ·)
          (funext fun answer => ?_)
        cases answer with
        | error fault => rfl
        | ok content =>
          dsimp only [next]
          cases rewriteContent project file content kind entries <;> rfl
      · cases answer with
        | error fault => rw [← Except.ok.inj planned]; rfl
        | ok content =>
          dsimp only [next] at planned
          unfold rewriteContent at planned
          split at planned
          · rw [← Except.ok.inj planned]; rfl
          · cases planned
          · rw [← Except.ok.inj planned]; rfl

/-- Reading a file was refused. -/
def Refused (project : Project) (events : List Event) (file : String) : Prop :=
  ∃ fault, ⟨.read (sourcePath project file), .error fault⟩ ∈ events

theorem read_runs {path : Path} {rest : Disk.Action (Except Fault String)}
    (runs : (Disk.read path).Runs s events rest t) : t = s ∧ Quiet events := by
  rcases Disk.Action.runs_request runs with ⟨rfl, -, rfl⟩ | ⟨answer, served, rfl, -⟩
  · exact ⟨rfl, quiet_nil⟩
  · exact ⟨served.read_cases.1, List.forall_mem_singleton.mpr nofun⟩

/-- What a file becomes is known without a change of the disk. -/
theorem rewriteFile_passes {entries : List SnapshotEntry}
    (passes : (rewriteFile project file entries).Passes s events t) : t = s ∧ Quiet events := by
  rcases rewriteFile_cases project file entries with ⟨outcome, same⟩ | ⟨next, same, -, -⟩
  · rw [same] at passes
    obtain ⟨rfl, rfl⟩ := Job.passes_pure passes
    exact ⟨rfl, quiet_nil⟩
  · rw [same] at passes
    rcases passes.of_bind with first | ⟨answer, u, front, back, first, ⟨_, more⟩, rfl⟩
    · obtain ⟨_, runs⟩ := Job.passes_lift first
      exact read_runs runs
    · obtain ⟨rfl, -, rfl⟩ := Disk.Action.runs_done more
      obtain ⟨rfl, quiet⟩ := read_runs (Job.ends_lift first)
      exact ⟨rfl, (List.append_nil front).symm ▸ quiet⟩

/-- A plan for a file is the one for what the disk holds, unless the disk did not let it be read. -/
theorem rewriteFile_ends {entries : List SnapshotEntry} {rewrite : FileRewrite}
    (ends : (rewriteFile project file entries).Ends s events (.ok rewrite) t) :
    rewrite.record.file = file ∧
    (rewrite.content ≠ none → FileKind.ofPath? (sourcePath project file) ≠ none) ∧
      ((rewriteFile project file entries).runWith State.answer s = (.ok rewrite, s) ∨
        Refused project events file) := by
  rcases rewriteFile_cases project file entries with ⟨outcome, same⟩ | ⟨next, same, kind, named⟩
  · rw [same] at ends ⊢
    obtain ⟨made, -, -⟩ := Job.ends_pure ends
    cases made
    exact ⟨rfl, fun some => (some rfl).elim, .inl rfl⟩
  · rw [same] at ends ⊢
    obtain ⟨answer, u, front, back, first, more, rfl⟩ := ends.of_bind
    obtain ⟨rfl, made, rfl⟩ := Disk.Action.runs_done more
    have planned : next answer = .ok rewrite := (Disk.Action.done.inj made).symm
    refine ⟨named answer rewrite planned, fun _ => kind, ?_⟩
    rcases Disk.Action.runs_request (Job.ends_lift first)
      with ⟨-, none, -⟩ | ⟨answer, served, rfl, made⟩
    · cases none
    · obtain rfl := Disk.Action.done.inj made
      rcases served.read_cases with ⟨-, rfl | ⟨fault, rfl⟩⟩
      · refine .inl ?_
        rw [Job.runWith_bind_of_ok (Job.runWith_lift State.answer _ s)]
        exact Prod.ext planned rfl
      · exact .inr ⟨fault, List.mem_append_left _ (List.mem_singleton_self _)⟩

/-- The job that finds out what becomes of all files. -/
abbrev plan (project : Project) (groups : List (String × List SnapshotEntry)) :
    Job (List FileRewrite) :=
  groups.mapM fun group => rewriteFile project group.1 group.2

theorem plan_passes {groups : List (String × List SnapshotEntry)}
    (passes : (plan project groups).Passes s events t) : t = s ∧ Quiet events := by
  induction groups generalizing s events t with
  | nil =>
    obtain ⟨rfl, rfl⟩ := Job.passes_pure passes
    exact ⟨rfl, quiet_nil⟩
  | cons group groups ih =>
    rw [plan, List.mapM_cons] at passes
    rcases passes.of_bind with first | ⟨rewrite, u, front, back, first, more, rfl⟩
    · exact rewriteFile_passes first
    · obtain ⟨rfl, quiet⟩ := rewriteFile_passes first.passes
      rcases more.of_bind with second | ⟨rewrites, v, middle, rest, second, last, rfl⟩
      · obtain ⟨rfl, silent⟩ := ih second
        exact ⟨rfl, quiet.append silent⟩
      · obtain ⟨rfl, silent⟩ := ih second.passes
        obtain ⟨rfl, rfl⟩ := Job.passes_pure last
        exact ⟨rfl, quiet.append ((List.append_nil middle).symm ▸ silent)⟩

/-- A plan for a group of the snapshot, as far as the disk let its file be read. -/
structure Plans (project : Project) (s : State) (events : List Event)
    (group : String × List SnapshotEntry) (rewrite : FileRewrite) : Prop where
  named : rewrite.record.file = group.1
  kind : rewrite.content ≠ none → FileKind.ofPath? (sourcePath project group.1) ≠ none
  true : (rewriteFile project group.1 group.2).runWith State.answer s = (.ok rewrite, s) ∨
    Refused project events group.1

theorem Plans.mono {more : List Event} {group : String × List SnapshotEntry} {rewrite : FileRewrite}
    (plans : Plans project s events group rewrite) (subset : events ⊆ more) :
    Plans project s more group rewrite :=
  ⟨plans.named, plans.kind, plans.true.imp_right fun ⟨fault, refused⟩ => ⟨fault, subset refused⟩⟩

theorem plan_ends {groups : List (String × List SnapshotEntry)} {rewrites : List FileRewrite}
    (ends : (plan project groups).Ends s events (.ok rewrites) t) :
    List.Forall₂ (Plans project s events) groups rewrites := by
  induction groups generalizing s events rewrites t with
  | nil =>
    obtain ⟨same, -, -⟩ := Job.ends_pure ends
    cases same
    exact .nil
  | cons group groups ih =>
    rw [plan, List.mapM_cons] at ends
    obtain ⟨rewrite, u, front, back, first, more, rfl⟩ := ends.of_bind
    obtain ⟨rfl, -⟩ := rewriteFile_passes first.passes
    obtain ⟨others, v, middle, rest, second, last, rfl⟩ := more.of_bind
    obtain ⟨same, rfl, rfl⟩ := Job.ends_pure last
    cases same
    obtain ⟨named, kind, true⟩ := rewriteFile_ends first
    refine .cons (Plans.mono ⟨named, kind, true⟩ (List.subset_append_left ..)) ?_
    exact (ih second).imp fun _ _ plans => plans.mono fun event listed => by simp [listed]

theorem writes_pass {writes : List (String × String)}
    (passes : (writes.forM fun write =>
      Job.writeFile (sourcePath project write.1) write.2).Passes s events t) :
    Grows (SourcePlace project s.workingDirectory (writes.map (·.1))) s t := by
  induction writes generalizing s events with
  | nil =>
    obtain ⟨-, rfl⟩ := Job.passes_pure passes
    exact .refl _ _
  | cons write rest ih =>
    have one {u : State} {events : List Event}
        (passes : (Job.writeFile (sourcePath project write.1) write.2).Passes s events u) :
        Grows (SourcePlace project s.workingDirectory ((write :: rest).map (·.1))) s u :=
      (writeFile_passes passes).mono fun place leads => ⟨write.1, List.mem_cons_self, leads⟩
    have passes : (Job.writeFile (sourcePath project write.1) write.2 >>= fun _ =>
      rest.forM fun write => Job.writeFile (sourcePath project write.1) write.2).Passes s
        events t := passes
    rcases passes.of_bind with first | ⟨_, u, front, back, first, others, rfl⟩
    · exact one first
    · have grows := one first.passes
      refine grows.trans ((ih others).mono ?_)
      rintro place ⟨file, listed, leads⟩
      exact ⟨file, List.mem_cons_of_mem _ listed, grows.home ▸ leads⟩

/-- A place for a list of what is left to be done by hand. -/
def ReportPlace (project : Project) (home place : Place) : Prop :=
  ∃ above front, ∃ extension ∈ ["md", "json"], lead home project.outputDir.components = .ok above ∧
    place = above ++ [front ++ ("." ++ extension)]

theorem report_passes (extension : String) {content : String} (known : extension ∈ ["md", "json"])
    (passes : (Job.writeFile
      (project.outputDir.join ⟨"pending-tasks-" ++ time.fileText ++ ("." ++ extension)⟩)
        content).Passes s events t) : Grows (ReportPlace project s.workingDirectory) s t := by
  refine (writeFile_passes passes).mono fun place leads => ?_
  have isPiece : Path.IsPiece ("pending-tasks-" ++ time.fileText ++ ("." ++ extension)) := by
    have noSlash : '/' ∉ extension.toList := by
      rcases List.mem_pair.mp known with rfl | rfl <;> decide
    exact {
      filled := by simp
      noSlash := by simp [Instant.slash_not_mem_fileText, noSlash]
      noDot := fun same => by simpa using congrArg (·.toList.head?) same
      noDots := fun same => by simpa using congrArg (·.toList.head?) same }
  obtain ⟨above, outer, rfl⟩ := lead_join_name project.outputDir isPiece leads
  exact ⟨above, _, extension, known, outer, rfl⟩

theorem writePending_passes {records : List FileRecord}
    (passes : (writePending project time records).Passes s events t) :
    Grows (ReportPlace project s.workingDirectory) s t := by
  unfold writePending at passes
  dsimp only at passes
  split at passes
  · obtain ⟨-, rfl⟩ := Job.passes_pure passes
    exact .refl _ _
  · rcases passes.of_bind with first | ⟨_, u, _, _, first, more, -⟩
    · exact (createDirectory_passes first).1
    · have start : Grows (ReportPlace project s.workingDirectory) s u :=
        (createDirectory_passes first.passes).1
      rcases more.of_bind with second | ⟨_, v, _, _, second, last, -⟩
      · exact start.trans (start.home ▸ report_passes "md" (by decide) second)
      · have middle := start.trans (start.home ▸ report_passes "md" (by decide) second.passes)
        rcases last.of_bind with third | ⟨_, w, _, _, third, finish, -⟩
        · exact middle.trans (middle.home ▸ report_passes "json" (by decide) third)
        · obtain ⟨-, rfl⟩ := Job.passes_pure finish
          exact middle.trans (middle.home ▸ report_passes "json" (by decide) third.passes)

/-- No backup of a source file is in the way of such a list. -/
theorem not_reportPlace {home place : Place} (inner : Path.IsInner ⟨file⟩)
    (kind : FileKind.ofPath? (sourcePath project file) ≠ none)
    (leads : lead home (savedPath project time file).components = .ok place) :
    ¬ ReportPlace project home place := by
  rintro ⟨above, front, extension, known, -, same⟩
  obtain ⟨middle, names, -, parts, rfl⟩ := lead_join_inner inner leads
  obtain ⟨outer, name, parts', fileName⟩ := inner.fileName?_join project.root
  obtain ⟨names, rfl⟩ : ∃ others, names = others ++ [name] := by
    obtain ⟨others, last, rfl, -, single⟩ := List.map_eq_append_iff.mp (parts.symm.trans parts')
    obtain ⟨only, rfl, named⟩ := List.map_eq_singleton_iff.mp single
    exact ⟨others, by rw [Path.Component.normal.inj named]⟩
  rw [← List.append_assoc] at same
  obtain rfl := List.singleton_inj.mp (List.append_inj_right' same rfl)
  refine kind ?_
  have extension? : (sourcePath project file).extension? = none ∨
      (sourcePath project file).extension? = some extension := by
    rw [sourcePath, Path.extension?, fileName, Option.bind_some]
    rcases List.mem_pair.mp known with rfl | rfl
    all_goals
      rw [Path.splitExtension_append (by decide) (by decide)]
      split
      · exact .inl rfl
      · exact .inr rfl
  rcases extension? with none | some
  · rw [FileKind.ofPath?, none]
    rfl
  · rw [FileKind.ofPath?, some]
    rcases List.mem_pair.mp known with rfl | rfl <;> rfl

/-- What is left of a run when all backups are made. -/
def finish (project : Project) (time : Instant) (rewrites : List FileRewrite)
    (backupDir : Option Path) : Job Summary := do
  (pendingWrites rewrites).forM fun write => Job.writeFile (sourcePath project write.1) write.2
  let pendingReport ← writePending project time (rewrites.map (·.record))
  return { records := rewrites.map (·.record), backupDir, pendingReport }

theorem rewriteProject_eq (project : Project) (options : Options) (snapshot : Snapshot)
    (time : Instant) : rewriteProject project options snapshot time = (do
      let rewrites ← plan project snapshot.byFile
      if options.preview then return { records := rewrites.map (·.record), preview := true }
      let backupDir ←
        if options.backup then backUpAll project time ((pendingWrites rewrites).map (·.1))
        else pure none
      finish project time rewrites backupDir) := rfl

theorem finish_passes {rewrites : List FileRewrite} {backupDir : Option Path}
    (passes : (finish project time rewrites backupDir).Passes s events t) :
    Grows (fun place => SourcePlace project s.workingDirectory
      ((pendingWrites rewrites).map (·.1)) place ∨
        ReportPlace project s.workingDirectory place) s t := by
  rcases passes.of_bind with first | ⟨_, u, _, _, first, more, -⟩
  · exact (writes_pass first).mono fun _ => .inl
  · have written := (writes_pass first.passes).mono
      fun place => @Or.inl _ (ReportPlace project s.workingDirectory place)
    have reports {v : State} {events : List Event}
        (passes : (writePending project time (rewrites.map (·.record))).Passes u events v) :
        Grows (fun place => SourcePlace project s.workingDirectory
          ((pendingWrites rewrites).map (·.1)) place ∨
          ReportPlace project s.workingDirectory place) s v :=
      written.trans ((written.home ▸ writePending_passes passes).mono fun _ => .inr)
    rcases more.of_bind with second | ⟨_, v, _, _, second, last, -⟩
    · exact reports second
    · obtain ⟨-, rfl⟩ := Job.passes_pure last
      exact reports second.passes

theorem backUpAll_passes {part : List String} (subset : part ⊆ files)
    (passes : (backUpAll project time part).Passes s events t) :
    Grows (SavedPlace project time s.workingDirectory files) s t ∧ Quiet events := by
  unfold backUpAll at passes
  split at passes
  · obtain ⟨rfl, rfl⟩ := Job.passes_pure passes
    exact ⟨.refl _ _, quiet_nil⟩
  · rcases passes.of_bind with first | ⟨_, u, front, back, first, more, rfl⟩
    · exact backUps_passes subset first
    · obtain ⟨rfl, rfl⟩ := Job.passes_pure more
      exact (List.append_nil front).symm ▸ backUps_passes subset first.passes

theorem backUpAll_ends {part : List String} {directory : Option Path}
    (tree : InTree project s.workingDirectory files) (subset : part ⊆ files)
    (ends : (backUpAll project time part).Ends s events (.ok directory) t) :
    ∀ file ∈ part, Copied project time events file ∧ Saved project time s t file := by
  unfold backUpAll at ends
  split at ends
  · rename_i empty
    rw [List.isEmpty_iff.mp empty]
    exact nofun
  · obtain ⟨_, u, front, back, first, more, rfl⟩ := ends.of_bind
    obtain ⟨-, rfl, rfl⟩ := Job.ends_pure more
    exact (List.append_nil front).symm ▸ backUps_end tree subset first

/-- No request to write a file has been made, and its content is where it was. -/
def Untouched (project : Project) (s t : State) (events : List Event) (file : String) : Prop :=
  (∀ content answer, ⟨.write (sourcePath project file) content, answer⟩ ∉ events) ∧
    Kept project s t file

/-- A file of the snapshot that is given another content, if it can be read. -/
def Due (project : Project) (snapshot : Snapshot) (s : State) (file : String) : Prop :=
  ∃ entries rewrite, (file, entries) ∈ snapshot.byFile ∧
    (rewriteFile project file entries).runWith State.answer s = (.ok rewrite, s) ∧
    rewrite.content ≠ none

theorem Quiet.untouched (quiet : Quiet events) (kept : Kept project s t file) :
    Untouched project s t events file :=
  ⟨fun content _ listed => quiet _ listed _ content rfl, kept⟩

theorem mem_pendingWrites {groups : List (String × List SnapshotEntry)}
    {rewrites : List FileRewrite} (plans : List.Forall₂ (Plans project s events) groups rewrites)
    (written : file ∈ (pendingWrites rewrites).map (·.1)) :
    file ∈ groups.map (·.1) ∧ FileKind.ofPath? (sourcePath project file) ≠ none := by
  induction plans with
  | nil => cases written
  | @cons group rewrite groups rewrites first rest ih =>
    have later (written : file ∈ (pendingWrites rewrites).map (·.1)) :
        file ∈ (group :: groups).map (·.1) ∧ FileKind.ofPath? (sourcePath project file) ≠ none :=
      ⟨List.mem_cons_of_mem _ (ih written).1, (ih written).2⟩
    rw [pendingWrites, List.filterMap_cons] at written
    cases content : rewrite.content with
    | none => rw [content] at written; exact later written
    | some text =>
      rw [content] at written
      rcases List.mem_cons.mp written with rfl | written
      · have kind := first.kind (by rw [content]; exact Option.some_ne_none _)
        dsimp only
        rw [first.named]
        exact ⟨List.mem_cons_self, kind⟩
      · exact later written

/-- A file that is due is written, if it could be read. -/
theorem written_of_due {groups : List (String × List SnapshotEntry)} {rewrites : List FileRewrite}
    (plans : List.Forall₂ (Plans project s events) groups rewrites) {entries : List SnapshotEntry}
    {rewrite : FileRewrite} (listed : (file, entries) ∈ groups)
    (ran : (rewriteFile project file entries).runWith State.answer s = (.ok rewrite, s))
    (changed : rewrite.content ≠ none) :
    Refused project events file ∨ file ∈ (pendingWrites rewrites).map (·.1) := by
  induction plans with
  | nil => cases listed
  | @cons group other groups rewrites first rest ih =>
    rcases List.mem_cons.mp listed with rfl | listed
    · refine first.true.symm.imp_right fun same => ?_
      obtain rfl := Except.ok.inj (Prod.mk.inj (ran.symm.trans same)).1
      obtain ⟨content, some⟩ := Option.ne_none_iff_exists'.mp changed
      rw [pendingWrites, List.filterMap_cons, some]
      exact List.mem_cons.mpr (.inl first.named.symm)
    · refine (ih listed).imp_right fun written => ?_
      rw [pendingWrites, List.filterMap_cons]
      cases other.content with
      | none => exact written
      | some content => exact List.mem_cons_of_mem _ written

theorem plan_run {groups : List (String × List SnapshotEntry)} {rewrites : List FileRewrite}
    (ran : (plan project groups).runWith State.answer s = (.ok rewrites, t)) : t = s := by
  obtain ⟨events, ends⟩ := Job.ends_of_runWith ran
  exact (plan_passes ends.passes).1

variable {snapshot : Snapshot} {backup : Bool}

/-- A preview changes nothing, whatever the disk refuses. -/
theorem preview_passes
    (passes : (rewriteProject project ⟨true, backup⟩ snapshot time).Passes s events t) : t = s := by
  rw [rewriteProject_eq] at passes
  rcases passes.of_bind with first | ⟨rewrites, u, front, back, first, more, rfl⟩
  · exact (plan_passes first).1
  · obtain ⟨-, rfl⟩ := Job.passes_pure more
    exact (plan_passes first.passes).1

/-- A preview ends with the records of a run that succeeds. -/
theorem preview_of_run {summary : Summary}
    (ran : (rewriteProject project ⟨false, backup⟩ snapshot time).runWith State.answer
      s = (.ok summary, t))
    (other : Bool) : (rewriteProject project ⟨true, other⟩ snapshot time).runWith State.answer s =
      (.ok { records := summary.records, preview := true }, s) := by
  rw [rewriteProject_eq] at ran ⊢
  obtain ⟨rewrites, u, planned, rest⟩ := Job.bind_ok ran
  obtain rfl := plan_run planned
  rw [Job.runWith_bind_of_ok planned]
  have rest :
    ((if backup then backUpAll project time ((pendingWrites rewrites).map (·.1)) else pure none) >>=
      fun backupDir => finish project time rewrites backupDir).runWith State.answer u =
      (.ok summary, t) := by
    cases backup <;> exact rest
  obtain ⟨directory, v, -, finished⟩ := Job.bind_ok rest
  obtain ⟨_, w, -, last⟩ := Job.bind_ok finished
  obtain ⟨report, x, -, same⟩ := Job.bind_ok last
  rw [← Except.ok.inj (Prod.mk.inj same).1]
  rfl

section
variable {rewrites : List FileRewrite} {planned : List Event}
  (tree : InTree project s.workingDirectory (snapshot.byFile.map (·.1)))
  (plans : List.Forall₂ (Plans project s planned) snapshot.byFile rewrites)
  (made : Grows (SavedPlace project time s.workingDirectory (snapshot.byFile.map (·.1))) s u)
  (after : Grows (fun place => SourcePlace project s.workingDirectory
    ((pendingWrites rewrites).map (·.1)) place ∨ ReportPlace project s.workingDirectory place) u t)
include tree plans made after

/-- What is in the backup stays there while files are written. -/
theorem saved_of_grows (written : file ∈ (pendingWrites rewrites).map (·.1))
    (saved : Saved project time s u file) : Saved project time s t file := by
  obtain ⟨listed, kind⟩ := mem_pendingWrites plans written
  intro content held
  refine after.content (saved content held) fun place leads => ?_
  rw [made.home] at leads
  rintro (⟨other, member, source⟩ | report)
  · exact tree.apart (mem_pendingWrites plans member).1 source ⟨file, listed, leads⟩
  · exact not_reportPlace (tree.inner file listed) kind leads report

/-- A file that is not written stays as it is. -/
theorem kept_of_grows (listed : file ∈ snapshot.byFile.map (·.1))
    (spared : file ∉ (pendingWrites rewrites).map (·.1)) : Kept project s t file := by
  intro content held
  refine after.content (tree.kept listed made content held) fun place leads => ?_
  rw [made.home] at leads
  rintro (⟨other, member, source⟩ | ⟨above, name, extension, -, outer, rfl⟩)
  · exact spared (tree.source_injective listed (mem_pendingWrites plans member).1
      leads source ▸ member)
  · exact tree.outside file listed _ (List.mem_cons_of_mem _ List.mem_cons_self) above _ outer leads
      (List.prefix_append ..)

end

/-- A preview changes nothing, whatever the disk refuses, and ends with the records of a run that
succeeds. On a run with a backup, at every point and whatever the disk has refused, either no source
file has been touched, or each file to be modified that could be read has been copied to the backup
and is there as it was. So no content of a source file is ever lost: it is in its place or in the
backup. -/
theorem rewriteProject_spares_sources (project : Project) (snapshot : Snapshot)
    (time : Instant) (s : State)
    (tree : InTree project s.workingDirectory (snapshot.byFile.map (·.1))) :
    (∀ backup events t, (rewriteProject project ⟨true, backup⟩ snapshot time).Passes s
      events t → t = s) ∧
    (∀ backup summary t,
      (rewriteProject project ⟨false, backup⟩ snapshot time).runWith State.answer s =
      (.ok summary, t) → ∀ other,
      (rewriteProject project ⟨true, other⟩ snapshot time).runWith State.answer s =
        (.ok { records := summary.records, preview := true }, s)) ∧
    ∀ events t, (rewriteProject project ⟨false, true⟩ snapshot time).Passes s events t →
      ((∀ file ∈ snapshot.byFile.map (·.1), Untouched project s t events file) ∨
        ∀ file, Due project snapshot s file → Refused project events file ∨
          Copied project time events file ∧ Saved project time s t file) ∧
      ∀ file ∈ snapshot.byFile.map (·.1), Kept project s t file ∨ Saved project time s t file := by
  refine ⟨fun _ _ _ => preview_passes, fun _ _ _ => preview_of_run, fun events t passes => ?_⟩
  rw [rewriteProject_eq] at passes
  have untouched {copied : Prop}
      (grows : Grows (SavedPlace project time s.workingDirectory (snapshot.byFile.map (·.1))) s t)
      (quiet : Quiet events) :
      ((∀ file ∈ snapshot.byFile.map (·.1), Untouched project s t events file) ∨ copied) ∧
        ∀ file ∈ snapshot.byFile.map (·.1), Kept project s t file ∨ Saved project time s t file :=
    ⟨.inl fun file listed => quiet.untouched (tree.kept listed grows),
      fun file listed => .inl (tree.kept listed grows)⟩
  rcases passes.of_bind with first | ⟨rewrites, u, front, back, first, more, rfl⟩
  · obtain ⟨rfl, quiet⟩ := plan_passes first
    exact untouched (.refl _ _) quiet
  obtain ⟨rfl, quiet⟩ := plan_passes first.passes
  have plans := plan_ends first
  have part : (pendingWrites rewrites).map (·.1) ⊆ snapshot.byFile.map (·.1) :=
    fun file written => (mem_pendingWrites plans written).1
  have more : (backUpAll project time ((pendingWrites rewrites).map (·.1)) >>= fun backupDir =>
    finish project time rewrites backupDir).Passes u back t := more
  rcases more.of_bind with second | ⟨directory, v, middle, last, second, rest, rfl⟩
  · obtain ⟨grows, silent⟩ := backUpAll_passes part second
    exact untouched grows (quiet.append silent)
  obtain ⟨made, -⟩ := backUpAll_passes part second.passes
  have saved := backUpAll_ends tree part second
  have after := finish_passes rest
  rw [made.home] at after
  refine ⟨.inr ?_, fun file listed => ?_⟩
  · rintro file ⟨entries, rewrite, listed, ran, changed⟩
    rcases written_of_due plans listed ran changed with ⟨fault, refused⟩ | written
    · exact .inl ⟨fault, List.mem_append_left _ refused⟩
    · have copied := List.mem_append_right front (List.mem_append_left last (saved file written).1)
      exact .inr ⟨copied, saved_of_grows tree plans made after written (saved file written).2⟩
  · by_cases written : file ∈ (pendingWrites rewrites).map (·.1)
    · exact .inr (saved_of_grows tree plans made after written (saved file written).2)
    · exact .inl (kept_of_grows tree plans made after listed written)

private def greeted (file : String) : Snapshot where
  metadata := ⟨"", 1, 0, 1, 0, 1⟩
  entries := [(file ++ "::file::line:1", ⟨"Common.textfog", [],
    ⟨file ++ "::file::line:1", file, .file, 1, .literal, 0, ⟨0, 5⟩, .plain, "你", "'你'", []⟩⟩)]

private def greeting : State := { entries := [
  (["src"], .directory), (["src", "a.js"], .file (.text "'你'")), (["app"], .directory),
  (["app", "web"], .directory)] }

private def rewritten (project : Project) (file : String) :
    Except Phrasebook.Failure Summary × State :=
  (rewriteProject project ⟨false, true⟩ (greeted file) ⟨0⟩).runWith State.answer greeting

private theorem eq_of_place (above : Place) {place : Place} {components : List Path.Component}
    (leads : lead [] components = .ok place) (found : (lead [] components).toOption = some above) :
    place = above := by
  rw [leads] at found
  exact Option.some.inj found

private theorem greeted_inTree : InTree { root := ⟨"/"⟩ } []
    ((greeted "src/a.js").byFile.map (·.1)) := by
  have names : (greeted "src/a.js").byFile.map (·.1) = ["src/a.js"] := by decide +kernel
  rw [names]
  constructor
  · rw [List.forall_mem_singleton]
    exact ⟨⟨["src", "a.js"], by decide, by decide +kernel⟩, by decide +kernel⟩
  · rw [List.forall_mem_singleton]
    intro directory listed above place leads source
    obtain rfl := eq_of_place ["src", "a.js"] source (by decide +kernel)
    rcases List.mem_pair.mp listed with rfl | rfl
    · obtain rfl := eq_of_place ["backup"] leads (by decide +kernel)
      decide
    · obtain rfl := eq_of_place ["output"] leads (by decide +kernel)
      decide

/-- What is written over is in the backup. -/
theorem rewriteProject_spares_sources_greeting :
    InTree { root := ⟨"/"⟩ } greeting.workingDirectory ((greeted "src/a.js").byFile.map (·.1)) ∧
    ∃ summary t, rewritten { root := ⟨"/"⟩ } "src/a.js" = (.ok summary, t) ∧
      t.content (sourcePath { root := ⟨"/"⟩ } "src/a.js") ≠ .ok (.text "'你'") ∧
      t.content (savedPath { root := ⟨"/"⟩ } ⟨0⟩ "src/a.js") = .ok (.text "'你'") := by
  obtain ⟨summary, done, changed⟩ : ∃ summary,
      (rewritten { root := ⟨"/"⟩ } "src/a.js").1 = .ok summary ∧
      ((rewritten { root := ⟨"/"⟩ } "src/a.js").2.content
        (sourcePath { root := ⟨"/"⟩ } "src/a.js")).toOption ≠
        some (.text "'你'") := ok_of_mem_toOption (by decide +kernel)
  obtain ⟨_, original, rfl⟩ :
      ∃ content, greeting.content (sourcePath { root := ⟨"/"⟩ } "src/a.js") = .ok content ∧
      content = .text "'你'" := ok_of_mem_toOption (by decide +kernel)
  have ran : rewritten { root := ⟨"/"⟩ } "src/a.js" =
      (.ok summary, (rewritten { root := ⟨"/"⟩ } "src/a.js").2) :=
    Prod.ext done rfl
  have other : (rewritten { root := ⟨"/"⟩ } "src/a.js").2.content
      (sourcePath { root := ⟨"/"⟩ } "src/a.js") ≠
      .ok (.text "'你'") := fun same => changed (by rw [same]; rfl)
  obtain ⟨events, ends⟩ := Job.ends_of_runWith ran
  obtain ⟨-, -, spared⟩ :=
    rewriteProject_spares_sources { root := ⟨"/"⟩ } (greeted "src/a.js") ⟨0⟩ greeting greeted_inTree
  have listed : "src/a.js" ∈ (greeted "src/a.js").byFile.map (·.1) := by decide +kernel
  have saved := ((spared events _ ends.passes).2 "src/a.js" listed).resolve_left fun kept =>
    other (kept _ original)
  exact ⟨greeted_inTree, summary, _, ran, other, saved _ original⟩

private def detached : Project where
  root := ⟨"/app/web"⟩
  config := { targetRoot := "../../src", backupDir := "../../backup" }

/-- The path of a file above the root leads out of the backup and back to the file: it is copied
onto itself, which empties it, before it is written over. -/
theorem backup_empties_source : "../../src/a.js" ∈
    (detached.scan.run State.answer greeting).1.files.map (·.relative) ∧
    (∀ directory ∈ [detached.backupDir, detached.outputDir], ∀ above place,
      lead [] directory.components = .ok above →
      lead [] (sourcePath detached "../../src/a.js").components = .ok place → ¬ above <+: place) ∧
    ∃ summary t, rewritten detached "../../src/a.js" = (.ok summary, t) ∧
      summary.backupDir = some (backupDir detached ⟨0⟩) ∧
      ∀ entry ∈ t.entries, entry.2 ≠ .file (.text "'你'") := by
  refine ⟨by decide +kernel, fun directory listed above place leads source => ?_, ?_⟩
  · obtain rfl := eq_of_place ["src", "a.js"] source (by decide +kernel)
    rcases List.mem_pair.mp listed with rfl | rfl
    · obtain rfl := eq_of_place ["backup"] leads (by decide +kernel)
      decide
    · obtain rfl := eq_of_place ["app", "web", "output"] leads (by decide +kernel)
      decide
  · obtain ⟨summary, done, lost⟩ : ∃ summary,
      (rewritten detached "../../src/a.js").1 = .ok summary ∧
        summary.backupDir = some (backupDir detached ⟨0⟩) ∧
        ∀ entry ∈ (rewritten detached "../../src/a.js").2.entries, entry.2 ≠ .file (.text "'你'") :=
      ok_of_mem_toOption (by decide +kernel)
    exact ⟨summary, _, Prod.ext done rfl, lost⟩

end Phrasebook.Rewriting
