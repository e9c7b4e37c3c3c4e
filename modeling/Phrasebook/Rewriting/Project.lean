import Phrasebook.Failure
import Phrasebook.Rewriting.File
import Phrasebook.Rewriting.Pending

/-!
Rewriting of all files of a snapshot. All new contents are known before anything is written, and all
files are backed up before the first of them is overwritten.
-/

namespace Phrasebook.Rewriting

structure Options where
  /-- Nothing is written. -/
  preview : Bool
  backup : Bool
deriving DecidableEq, Repr

/-- Rewrites one file, as far as it can be. Nothing is written. -/
def rewriteFile (project : Project) (file : String) (entries : List SnapshotEntry) :
    Job FileRewrite := do
  let stays (outcome : Outcome) := unchanged project.config.calls file entries outcome
  let path := project.root.join ⟨file⟩
  if project.isProtected file then return stays (.skipped "protected file")
  match FileKind.ofPath? path with
  | none => return stays (.failed (.unreadable "unsupported file type"))
  | some kind =>
    match ← (Disk.read path : Job _) with
    | .error fault => return stays (.failed (.unreadable fault.message))
    | .ok content =>
      match rewriteContent project file content kind entries with
      | some rewrite => return rewrite
      | none => throw (.misaligned file)

/-- The directory for what is backed up at a time. -/
def backupDir (project : Project) (time : Instant) : Path :=
  project.backupDir.join ⟨"backup-" ++ time.fileText⟩

/-- Copies a file to the same place below a directory. -/
def backUp (project : Project) (directory : Path) (file : String) : Job Unit := do
  let source := project.root.join ⟨file⟩
  let target := directory.join ⟨file⟩
  match target.parent? with
  | some parent => Job.createDirectory parent
  | none => pure ()
  Job.attempt (.backUp source target) (Disk.copy source target)

/-- The files with new contents. -/
def pendingWrites (rewrites : List FileRewrite) : List (String × String) :=
  rewrites.filterMap fun rewrite => rewrite.content.map fun content =>
    (rewrite.record.file, content)

/-- Backs up files; there is no directory for it if there are none. -/
def backUpAll (project : Project) (time : Instant) (files : List String) : Job (Option Path) := do
  if files.isEmpty then return none
  let directory := backupDir project time
  files.forM (backUp project directory)
  return some directory

/-- Writes what is left to be done by hand, unless nothing is. -/
def writePending (project : Project) (time : Instant) (records : List FileRecord) :
    Job (Option Path) := do
  let files := pendingFiles records
  if files.isEmpty then return none
  let directory := project.outputDir
  Job.createDirectory directory
  let report := directory.join ⟨"pending-tasks-" ++ time.fileText ++ ".md"⟩
  Job.writeFile report (pendingReport files time.fileText)
  Job.writeFile (directory.join ⟨"pending-tasks-" ++ time.fileText ++ ".json"⟩) (pendingData files)
  return some report

def rewriteProject (project : Project) (options : Options) (snapshot : Snapshot) (time : Instant) :
    Job Summary := do
  let rewrites ← snapshot.byFile.mapM fun (file, entries) => rewriteFile project file entries
  let records := rewrites.map (·.record)
  if options.preview then return { records, preview := true }
  let writes := pendingWrites rewrites
  let backupDir ← if options.backup then backUpAll project time (writes.map (·.1)) else pure none
  writes.forM fun (file, content) => Job.writeFile (project.root.join ⟨file⟩) content
  let pendingReport ← writePending project time records
  return { records, backupDir, pendingReport }

end Phrasebook.Rewriting
