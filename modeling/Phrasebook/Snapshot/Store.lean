import Phrasebook.Failure
import Phrasebook.Snapshot.Json

/-!
Snapshots on the disk. Each one has a file of its own, named for its time; the one with the last
name counts.
-/

namespace Phrasebook.Snapshot

def fileStart : String := "i18n-extracted-"

def fileName (time : Instant) : String := fileStart ++ time.fileText ++ ".json"

def isFileName (name : String) : Bool :=
  fileStart.toList.isPrefixOf name.toList && ".json".toList.isSuffixOf name.toList

/-- The last name of a snapshot among names of files. -/
def latestName? (names : List String) : Option String :=
  (names.filter isFileName).foldl
    (fun latest name => if latest.all (· ≤ name) then some name else latest) none

def write (snapshot : Snapshot) (directory : Path) (time : Instant) : Job Path := do
  Job.createDirectory directory
  let file := directory.join ⟨fileName time⟩
  Job.writeFile file snapshot.render
  return file

def ofFile (file : Path) : Job Snapshot := do
  match read (← Job.readFile file) with
  | .ok snapshot => return snapshot
  | .error detail => throw (.malformedSnapshot file detail)

/-- The snapshot that was written last. -/
def latest (directory : Path) : Job Snapshot := do
  let names := match ← (Disk.list directory : Job _) with
    | .ok entries => entries.map (·.1)
    | .error _ => []
  match latestName? names with
  | some name => ofFile (directory.join ⟨name⟩)
  | none => throw (.missing .snapshot directory)

end Phrasebook.Snapshot
