import Phrasebook.Failure
import Phrasebook.Project.Scan
import Phrasebook.Validation.Issue

/-!
Validation of all source files of a project, and its report.
-/

namespace Phrasebook.Validation

structure Summary where
  totalFiles : Nat := 0
  /-- The issues of each file that has some, sorted by file. -/
  issues : List (String × List Issue) := []
  /-- Files that could not be read. -/
  unreadable : List String := []
deriving DecidableEq, Repr

namespace Summary

def filesWithIssues (s : Summary) : Nat := s.issues.length

def totalIssues (s : Summary) : Nat := (s.issues.flatMap (·.2)).length

end Summary

def issueLine (issue : Issue) : String :=
  "- " ++ toString issue.line ++ ":" ++ toString issue.column ++ " \x60" ++ issue.text ++ "\x60: "
    ++ issue.context ++ "\n"

def fileSection (file : String) (issues : List Issue) : String :=
  "## " ++ file ++ "\n\n" ++ String.join (issues.map issueLine) ++ "\n"

def report (s : Summary) : String :=
  "# Validation report\n\n- Files checked: " ++ toString s.totalFiles
    ++ "\n- Files with issues: " ++ toString s.filesWithIssues
    ++ "\n- Issues: " ++ toString s.totalIssues ++ "\n\n"
    ++ String.join (s.issues.map fun (file, issues) => fileSection file issues)

namespace Summary

def addIssues (s : Summary) (file : String) (issues : List Issue) : Summary :=
  if issues.isEmpty then s else { s with issues := s.issues ++ [(file, issues)] }

def addUnreadable (s : Summary) (file : String) : Summary :=
  { s with unreadable := s.unreadable ++ [file] }

end Summary

def addFile (config : Config) (s : Summary) (file : SourceFile) : Disk.Action Summary := do
  match ← Disk.read file.path with
  | .ok content => return s.addIssues file.relative (issues config content)
  | .error _ => return s.addUnreadable file.relative

/-- The issues of source files. The files are sorted, and so are the issues. -/
def checkFiles (config : Config) (files : List SourceFile) : Disk.Action Summary :=
  files.foldlM (addFile config) { totalFiles := files.length }

def writeReport (directory : Path) (s : Summary) : Job Path := do
  Job.createDirectory directory
  let file := directory.join ⟨"validation-report.md"⟩
  Job.writeFile file (report s)
  return file

end Phrasebook.Validation
