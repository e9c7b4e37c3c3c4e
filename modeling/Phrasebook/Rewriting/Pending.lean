import Phrasebook.Json.Printer
import Phrasebook.Rewriting.Record
import Phrasebook.Text.Search

/-!
The list of replacements left to be made by hand, for people and for programs.
-/

namespace Phrasebook.Rewriting

def Failure.toJson : Failure → Json
  | textNotFound => .object [("kind", .text "textNotFound")]
  | overlap => .object [("kind", .text "overlap")]
  | unreadable message => .object [("kind", .text "unreadable"), ("message", .text message)]

/-- The replacements of a file that failed. -/
structure PendingFile where
  file : String
  tasks : List (Substitution × Failure)

def pendingTasks (record : FileRecord) : List (Substitution × Failure) :=
  record.substitutions.filterMap fun s => s.failure?.map fun reason => (s, reason)

/-- The files in which a replacement failed. -/
def pendingFiles (records : List FileRecord) : List PendingFile :=
  (records.map fun record => ⟨record.file, pendingTasks record⟩).filter (!·.tasks.isEmpty)

namespace PendingFile

def taskJson : Substitution × Failure → Json
  | (s, reason) => .object [
    ("locationKey", .text s.locationKey), ("line", .natural s.line), ("key", .text s.key),
    ("text", .text s.phrase), ("old", .text s.old), ("replacement", .text s.replacement),
    ("reason", reason.toJson)]

def toJson (p : PendingFile) : Json :=
  .object [("file", .text p.file), ("tasks", .array (p.tasks.map taskJson))]

def taskText : Substitution × Failure → String
  | (s, reason) =>
    "- [ ] line " ++ toString s.line ++ ": replace \x60" ++ s.old ++
      "\x60 with \x60" ++ s.replacement ++ "\x60 (" ++ reason.text ++
      ")\n  - key \x60" ++ s.key ++ "\x60: " ++ Text.replaceChar '\n' "\\n" s.phrase ++ "\n"

def text (p : PendingFile) : String :=
  "## " ++ p.file ++ "\n\n" ++ String.join (p.tasks.map taskText) ++ "\n"

end PendingFile

def pendingReport (files : List PendingFile) (generatedAt : String) : String :=
  let total := (files.flatMap (·.tasks)).length
  "# Pending manual rewrites\n\nGenerated: " ++ generatedAt ++ "\nFiles: " ++ toString files.length
    ++ ", substitutions: " ++ toString total ++ "\n\n" ++ String.join (files.map PendingFile.text)

/-- The list as a data file. -/
def pendingData (files : List PendingFile) : String :=
  (Json.array (files.map PendingFile.toJson)).pretty ++ "\n"

end Phrasebook.Rewriting
