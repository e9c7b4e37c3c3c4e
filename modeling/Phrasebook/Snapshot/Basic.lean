import Phrasebook.Extraction.File
import Phrasebook.Key.Assigner
import Phrasebook.Time.Instant

/-!
Snapshots: what an extraction found and which keys it gave, kept for the rewriting that follows.
-/

namespace Phrasebook

/-- The extraction of all files of a project. -/
structure ProjectExtraction where
  occurrences : List Occurrence := []
  skips : List Skip := []
  /-- Files that could not be read, with the reason. -/
  unreadable : List (String × String) := []
  fileCount : Nat := 0

namespace ProjectExtraction

def count (extraction : ProjectExtraction) (kind : OccurrenceKind) : Nat :=
  extraction.occurrences.countP (·.kind == kind)

end ProjectExtraction

structure SnapshotMetadata where
  extractedAt : String
  plainCount : Nat
  interpolatedCount : Nat
  total : Nat
  skippedCount : Nat
  fileCount : Nat
deriving DecidableEq, Repr

structure SnapshotEntry where
  key : String
  bindings : List Binding
  occurrence : Occurrence
deriving DecidableEq, Repr

structure Snapshot where
  metadata : SnapshotMetadata
  /-- By location key, sorted. -/
  entries : List (String × SnapshotEntry)
deriving DecidableEq, Repr

namespace Snapshot

/-- The entry for an occurrence, if it has a key. -/
def entryOf? (assignment : Assignment) (o : Occurrence) : Option (String × SnapshotEntry) :=
  (assignment.entries.lookup o.locationKey).map fun entry =>
    (o.locationKey, ⟨entry.key, entry.bindings, o⟩)

def ofExtraction (extraction : ProjectExtraction) (assignment : Assignment) (time : Instant) :
    Snapshot where
  metadata := {
    extractedAt := time.dataText?.getD ""
    plainCount := extraction.count .plain
    interpolatedCount := extraction.count .interpolated
    total := extraction.occurrences.length
    skippedCount := extraction.skips.length
    fileCount := extraction.fileCount }
  entries := Text.sortedTable (extraction.occurrences.filterMap (entryOf? assignment))

/-- Adds an entry to the list of its file. -/
def addToFile (groups : List (String × List SnapshotEntry)) (entry : SnapshotEntry) :
    List (String × List SnapshotEntry) :=
  let file := entry.occurrence.file
  Text.insertSorted file ((groups.lookup file).getD [] ++ [entry]) groups

/-- The entries by file, each list in source order. -/
def byFile (snapshot : Snapshot) : List (String × List SnapshotEntry) :=
  let groups := (snapshot.entries.map (·.2)).foldl addToFile []
  groups.map fun (file, entries) =>
    (file, entries.mergeSort fun a b => a.occurrence.span.start ≤ b.occurrence.span.start)

end Snapshot
end Phrasebook
