import Phrasebook.Json.Printer
import Phrasebook.Json.Reader
import Phrasebook.Occurrence.Json
import Phrasebook.Snapshot.Basic

/-!
Snapshots as JSON.
-/

namespace Phrasebook

namespace SnapshotMetadata

def toJson (m : SnapshotMetadata) : Json :=
  .object [
    ("extractedAt", .text m.extractedAt),
    ("plainCount", .natural m.plainCount),
    ("interpolatedCount", .natural m.interpolatedCount),
    ("total", .natural m.total),
    ("skippedCount", .natural m.skippedCount),
    ("fileCount", .natural m.fileCount)]

private def metadataFields : List String :=
  ["extractedAt", "plainCount", "interpolatedCount", "total", "skippedCount", "fileCount"]

def ofJson : Decoder SnapshotMetadata := fun json => do
  let r ← JsonRecord.read metadataFields json
  return {
    extractedAt := ← r.required "extractedAt" Decoder.text
    plainCount := ← r.required "plainCount" Decoder.natural
    interpolatedCount := ← r.required "interpolatedCount" Decoder.natural
    total := ← r.required "total" Decoder.natural
    skippedCount := ← r.required "skippedCount" Decoder.natural
    fileCount := ← r.required "fileCount" Decoder.natural }

end SnapshotMetadata

namespace SnapshotEntry

def toJson (e : SnapshotEntry) : Json :=
  .object ([("key", .text e.key)] ++ Binding.member "bindings" e.bindings
    ++ [("occurrence", e.occurrence.toJson)])

def ofJson : Decoder SnapshotEntry := fun json => do
  let r ← JsonRecord.read ["key", "bindings", "occurrence"] json
  return {
    key := ← r.required "key" Decoder.text
    bindings := ← r.withDefault "bindings" (Decoder.list Binding.ofJson) []
    occurrence := ← r.required "occurrence" Occurrence.ofJson }

end SnapshotEntry

namespace Snapshot

def toJson (s : Snapshot) : Json :=
  .object [
    ("metadata", s.metadata.toJson),
    ("occurrences", .object (s.entries.map fun (location, entry) => (location, entry.toJson)))]

private def entriesOfJson : Decoder (List (String × SnapshotEntry))
  | .object members =>
    Text.sortedTable <$> members.mapM fun (location, json) =>
      (SnapshotEntry.ofJson json).map fun entry => (location, entry)
  | _ => .error (.wrongType "an object")

def ofJson : Decoder Snapshot := fun json => do
  let r ← JsonRecord.read ["metadata", "occurrences"] json
  return {
    metadata := ← r.required "metadata" SnapshotMetadata.ofJson
    entries := ← r.required "occurrences" entriesOfJson }

/-- The file of a snapshot. -/
def render (s : Snapshot) : String := s.toJson.pretty ++ "\n"

/-- Reads the file of a snapshot. -/
def read (content : String) : Except String Snapshot :=
  match Json.read content.toList with
  | .error e => .error e.message
  | .ok json =>
    match ofJson json with
    | .error e => .error e.message
    | .ok snapshot => .ok snapshot

end Snapshot
end Phrasebook
