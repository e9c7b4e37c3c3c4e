import Phrasebook.Failure
import Phrasebook.Project.Scan
import Phrasebook.Rewriting.File
import Phrasebook.Snapshot.Basic

/-!
Extraction of all source files of a project. A file that cannot be read is noted and passed over.
-/

namespace Phrasebook

namespace ProjectExtraction

/-- Adds what one file holds. -/
def addFile (found : ProjectExtraction) (extraction : Extraction) : ProjectExtraction :=
  { found with
    occurrences := found.occurrences ++ extraction.occurrences
    skips := found.skips ++ extraction.skips }

def addUnreadable (found : ProjectExtraction) (file message : String) : ProjectExtraction :=
  { found with unreadable := found.unreadable ++ [(file, message)] }

/-- Extracts one more file with this content. -/
def addContent (settings : Settings) (found : ProjectExtraction) (file content : String)
    (kind : FileKind) : Except Failure ProjectExtraction :=
  match Extraction.ofFile settings file kind content with
  | .ok extraction => .ok (found.addFile extraction)
  | .error .misaligned => .error (.misaligned file)
  | .error error => .ok (found.addUnreadable file (error.message file))

def readFiles (settings : Settings) (found : ProjectExtraction) :
    List SourceFile → Job ProjectExtraction
  | [] => return found
  | file :: rest => do
    match ← (Disk.read file.path : Job _) with
    | .error fault => readFiles settings (found.addUnreadable file.relative fault.message) rest
    | .ok content =>
      match found.addContent settings file.relative content file.kind with
      | .ok found => readFiles settings found rest
      | .error failure => throw failure

/-- The extraction of source files, in their order. -/
def ofFiles (settings : Settings) (files : List SourceFile) : Job ProjectExtraction :=
  readFiles settings { fileCount := files.length } files

end ProjectExtraction
end Phrasebook
