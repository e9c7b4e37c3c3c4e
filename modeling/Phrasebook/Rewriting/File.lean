import Phrasebook.Project.Context
import Phrasebook.Rewriting.Call
import Phrasebook.Rewriting.Edit
import Phrasebook.Rewriting.Import
import Phrasebook.Rewriting.Record
import Phrasebook.Snapshot.Basic

/-!
Rewriting of one file. The file is searched again, and each entry of the snapshot is matched with
the occurrence at the same site; all else stays as it is, byte for byte.
-/

namespace Phrasebook

/-- What is wrong with a file whose text cannot be extracted. -/
def ExtractionError.message (file : String) : ExtractionError → String
  | unreadable error => s!"Failed to parse {file}: {error.message}"
  | misaligned => s!"Failed to read {file}: a literal is cut inside a character"

namespace Rewriting

/-- The substitution for an entry at a place with this region, site and line. -/
def substitutionAt (calls : CallSpellings) (entry : SnapshotEntry) (place : Occurrence)
    (outcome : Outcome) : Substitution where
  locationKey := entry.occurrence.locationKey
  key := entry.key
  phrase := entry.occurrence.text
  line := place.line
  old := entry.occurrence.raw
  replacement := replacement calls place.region place.site entry.key entry.bindings
  outcome := outcome

/-- The record of a file that stays as it is, with one outcome for all entries. -/
def unchanged (calls : CallSpellings) (file : String) (entries : List SnapshotEntry)
    (outcome : Outcome) : FileRewrite where
  record := {
    file := file
    modified := false
    importInserted := false
    substitutions := entries.map fun e => substitutionAt calls e e.occurrence outcome }
  content := none

/-- The occurrence now found at the site of an entry. -/
def find? (fresh : List Occurrence) (entry : SnapshotEntry) : Option Occurrence :=
  fresh.find? (·.sameSite entry.occurrence)

/-- The substitution for an entry, as far as it is known before any edit is made. -/
def locate (calls : CallSpellings) (fresh : List Occurrence)
    (entry : SnapshotEntry) : Substitution :=
  match find? fresh entry with
  | some place => substitutionAt calls entry place .applied
  | none => substitutionAt calls entry entry.occurrence (.failed .textNotFound)

/-- The edits for the entries that were found, numbered by entry. -/
def editsFor (fresh : List Occurrence)
    (located : List (SnapshotEntry × Substitution)) : List Edit :=
  located.zipIdx.filterMap fun ((entry, substitution), i) =>
    (find? fresh entry).map fun place => ⟨place.span, substitution.replacement, i⟩

/-- Marks the substitutions whose edits were rejected. -/
def markRejected (rejected : List Nat) (substitutions : List Substitution) : List Substitution :=
  substitutions.zipIdx.map fun (s, i) =>
    if rejected.contains i then { s with outcome := .failed .overlap } else s

/-- Whether a replacement was made that needs the imported name. -/
def needsImport (entries : List SnapshotEntry) (substitutions : List Substitution) : Bool :=
  (entries.zip substitutions).any fun (entry, s) => s.isApplied && entry.occurrence.region == .file

/-- Rewrites a content whose occurrences are known. -/
def rewriteFound (project : Project) (file content : String) (fresh : List Occurrence)
    (entries : List SnapshotEntry) : FileRewrite :=
  let calls := project.config.calls
  let located := entries.map fun e => (e, locate calls fresh e)
  let (output, rejected) := applyEdits content.toList (editsFor fresh located)
  let substitutions := markRejected rejected (located.map (·.2))
  let inserts := needsImport entries substitutions && !bindsName output calls.moduleBinding
  let specifier := importSpecifier project.config.importPath
    (project.resolve project.config.translationModule) (project.root.join ⟨file⟩)
  let output := if inserts then insertImport output calls.moduleBinding specifier else output
  let modified := output != content.toList
  { record := ⟨file, modified, inserts, substitutions⟩
    content := if modified then some (String.ofList output) else none }

/-- Rewrites the content of a file. There is no answer for a script that is cut inside a character.
-/
def rewriteContent (project : Project) (file content : String) (kind : FileKind)
    (entries : List SnapshotEntry) : Option FileRewrite :=
  match Extraction.ofFile (Settings.ofConfig project.config) file kind content with
  | .ok extraction => some (rewriteFound project file content extraction.occurrences entries)
  | .error .misaligned => none
  | .error error =>
    some (unchanged project.config.calls file entries
      (.failed (.unreadable (error.message file))))

end Rewriting
end Phrasebook
