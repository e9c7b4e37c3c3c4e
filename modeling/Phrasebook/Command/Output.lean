import Phrasebook.Command.Execution
import Phrasebook.Text.Width

/-!
What a command prints: its summary, and warnings about files that it could not read.
-/

namespace Phrasebook.Command

/-- Marks a success. -/
def successMark : String := "✓"

/-- Marks work that is left to do. -/
def failureMark : String := "✘"

/-- Skips that are listed at most. -/
def shownSkips : Nat := 20

/-- A count with its noun. -/
def counted (count : Nat) (noun : String) : String :=
  toString count ++ " " ++ noun ++ if count == 1 then "" else "s"

def linesText (lines : List String) : String := String.join (lines.map (· ++ "\n"))

def skipLine (skip : Skip) : String :=
  "  " ++ skip.file ++ ":" ++ toString skip.line ++ " " ++ Text.replaceChar '\n' "\\n" skip.text
    ++ " (" ++ skip.reason.text ++ ")"

/-- The skips, one by one if more is to be said, and the number of those left out. -/
def skipLines (verbose : Bool) (skips : List Skip) : List String :=
  if skips.isEmpty then []
  else ["Skipped " ++ counted skips.length "candidate"]
    ++ (if verbose then (skips.take shownSkips).map skipLine else [])
    ++ (if verbose && shownSkips < skips.length then
        ["  (and " ++ toString (skips.length - shownSkips) ++ " more)"]
      else [])

def countGap (gap : TranslationGap) (missing : List MissingTranslation) : Nat :=
  missing.countP (·.gap == gap)

/-- A line about a file, if there is one. -/
def pathLine (label : String) : Option Path → List String
  | some path => ["  - " ++ label ++ ": " ++ path.text]
  | none => []

def translateLines (output : Locale.TargetOutput) : List String :=
  (successMark ++ " Generated locale " ++ output.language ++ " ("
      ++ counted output.modules.length "module" ++ ")")
    :: if output.missing.isEmpty then []
      else ("Untranslated " ++ counted output.missing.length "phrase" ++ " ("
          ++ toString (countGap .empty output.missing) ++ " empty, "
          ++ toString (countGap .missing output.missing) ++ " missing)")
        :: pathLine "report" output.report

def extractLines (verbose : Bool) (s : ExtractSummary) : List String :=
  [successMark ++ " Extracted " ++ counted (s.plainCount + s.interpolatedCount) "occurrence" ++ " ("
      ++ toString s.plainCount ++ " plain, " ++ toString s.interpolatedCount ++ " interpolated)",
    "  - keys: " ++ toString s.keyCount ++ " in " ++ counted s.moduleCount "module",
    "  - locale: " ++ s.localeDir.text,
    "  - template: " ++ s.templatePath.text,
    "  - snapshot: " ++ s.snapshotFile.text]
    ++ (if s.bootstrapWritten then ["  - bootstrap: lang/index.js"] else [])
    ++ skipLines verbose s.skips
    ++ s.unassigned.map (fun (location, conflict) =>
      "warning: " ++ location ++ ": " ++ conflict.message)
    ++ (s.secondary.map translateLines).getD []

def previewLines (record : Rewriting.FileRecord) : List String :=
  let applied := record.substitutions.filter (·.isApplied)
  if applied.isEmpty then []
  else record.file :: applied.flatMap (fun s =>
      ["  line " ++ toString s.line, "  - " ++ s.old, "  + " ++ s.replacement]) ++ [""]

/-- The number of replacements and of the files they are in. -/
def extent (s : Rewriting.Summary) : String :=
  counted s.applied "occurrence" ++ " in " ++ counted s.filesModified "file"

def appliedLines (s : Rewriting.Summary) : List String :=
  if s.preview then
    s.records.flatMap previewLines
      ++ ["Would replace " ++ extent s, "Run without --preview to apply."]
  else (successMark ++ " Replaced " ++ extent s) :: pathLine "backup" s.backupDir

/-- Why a file was left out. -/
def skippedFileLine? (record : Rewriting.FileRecord) : Option String :=
  record.substitutions.findSome? fun s =>
    match s.outcome with
    | .skipped reason => some ("    " ++ record.file ++ " (" ++ reason ++ ")")
    | _ => none

def skippedFileLines (s : Rewriting.Summary) : List String :=
  if s.skipped == 0 then []
  else ("  - skipped: " ++ toString s.skipped) :: s.records.filterMap skippedFileLine?

def failureLine? (file : String) (s : Rewriting.Substitution) : Option String :=
  s.failure?.map fun reason =>
    "  " ++ file ++ ":" ++ toString s.line ++ " " ++ s.old ++ " (" ++ reason.text ++ ")"

def failureLines (s : Rewriting.Summary) : List String :=
  if s.failed == 0 then []
  else (failureMark ++ " " ++ counted s.failed "substitution" ++ " need manual work")
    :: s.records.flatMap (fun record => record.substitutions.filterMap (failureLine? record.file))
    ++ pathLine "pending tasks" s.pendingReport

def rewriteLines (s : Rewriting.Summary) : List String :=
  appliedLines s ++ skippedFileLines s ++ failureLines s

def spaces (count : Nat) : String := String.ofList (List.replicate count ' ')

/-- An issue with its line of source and carets under the text. The numbers of lines get a margin of
this width. -/
def issueLines (margin : Nat) (file : String) (issue : Issue) : List String :=
  let number := toString issue.line
  let before := issue.sourceLine.toList.take (issue.column - 1)
  let carets := max (Text.displayWidth issue.text.toList) 1
  ["warning: " ++ issue.message,
    "  --> " ++ file ++ ":" ++ number ++ ":" ++ toString issue.column,
    spaces margin ++ " |",
    spaces (margin - number.length) ++ number ++ " | " ++ issue.sourceLine,
    spaces margin ++ " | " ++ spaces (Text.displayWidth before)
      ++ String.ofList (List.replicate carets '^'),
    ""]

def validateLines (s : Validation.Summary) (report : Path) : List String :=
  if s.issues.isEmpty then
    [successMark ++ " Checked " ++ counted s.totalFiles "source file"
      ++ " - no untranslated text found"]
  else
    let lastLine := ((s.issues.flatMap (·.2)).map (·.line)).foldl max 1
    let margin := (toString lastLine).length
    s.issues.flatMap (fun (file, issues) => issues.flatMap (issueLines margin file))
      ++ [failureMark ++ " " ++ counted s.totalIssues "untranslated text" ++ " in "
          ++ counted s.filesWithIssues "file" ++ " (" ++ toString s.totalFiles ++ " checked)",
        "  - report: " ++ report.text]

def Summary.lines (verbose : Bool) : Summary → List String
  | created configFile => [successMark ++ " Created " ++ configFile.text]
  | extracted summary => extractLines verbose summary
  | rewritten summary => rewriteLines summary
  | translated output => translateLines output
  | validated summary report => validateLines summary report

/-- Warnings about unreadable files: their number or, if more is to be said, each one. -/
def warningLines (verbose : Bool) (unreadable : List (String × String)) : List String :=
  if unreadable.isEmpty then []
  else if verbose then unreadable.map fun (file, message) => "warning: " ++ file ++ ": " ++ message
  else ["warning: " ++ toString unreadable.length
    ++ " file(s) could not be parsed (use -v for details)"]

/-- The report of an outcome. -/
def Outcome.report (verbose : Bool) (outcome : Outcome) : String :=
  linesText (outcome.summary.lines verbose)

/-- The warnings that go with an outcome. -/
def Outcome.warnings (verbose : Bool) (outcome : Outcome) : String :=
  linesText (warningLines verbose outcome.unreadable)

end Phrasebook.Command
