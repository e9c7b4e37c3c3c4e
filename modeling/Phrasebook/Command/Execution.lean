import Phrasebook.Command.Arguments
import Phrasebook.Config.Json
import Phrasebook.Extraction.Project
import Phrasebook.Json.Printer
import Phrasebook.Locale.Store
import Phrasebook.Project.Loading
import Phrasebook.Rewriting.Project
import Phrasebook.Snapshot.Store
import Phrasebook.Validation.Project

/-!
The commands: each one is a program that uses the disk and ends with an outcome to report, or with
the cause of its failure.
-/

namespace Phrasebook

namespace Command

structure ExtractSummary where
  plainCount : Nat
  interpolatedCount : Nat
  keyCount : Nat
  moduleCount : Nat
  skips : List Skip
  unassigned : List (String × KeyConflict)
  localeDir : Path
  templatePath : Path
  snapshotFile : Path
  bootstrapWritten : Bool
  /-- The locale that was generated along with the default one. -/
  secondary : Option Locale.TargetOutput

inductive Summary
  | created (configFile : Path)
  | extracted (summary : ExtractSummary)
  | rewritten (summary : Rewriting.Summary)
  | translated (output : Locale.TargetOutput)
  | validated (summary : Validation.Summary) (report : Path)

/-- The outcome of a command, with the files that it could not read, sorted by file. -/
structure Outcome where
  summary : Summary
  unreadable : List (String × String) := []

def sortedByFile (unreadable : List (String × String)) : List (String × String) :=
  unreadable.mergeSort fun a b => a.1 ≤ b.1

/-- Writes a configuration file with the defaults, unless there is one. -/
def createConfig (root : Path) : Job Outcome := do
  Job.createDirectory root
  let file := root.join configFileName
  if ← (Disk.isThere file : Job _) then throw (.configExists file)
  Job.writeFile file (({} : Config).toJson.pretty ++ "\n")
  return { summary := .created file }

/-- The first message of a record about a file that could not be read. -/
def unreadableFile? (record : Rewriting.FileRecord) : Option (String × String) :=
  record.substitutions.findSome? fun s =>
    match s.outcome with
    | .failed (.unreadable message) => some (record.file, message)
    | _ => none

/-- The language of an argument, if it can be that of a locale to generate. -/
def targetLanguage (config : Config) (argument : String) : Except Failure String :=
  let language := Text.trimmed argument
  if language.isEmpty || language.toList.any (fun c => c == '/' || c == '\\') then
    .error (.invalidLanguage argument)
  else if Text.equalsIgnoringAsciiCase language config.defaultLocale then
    .error (.defaultLanguage language)
  else .ok language

end Command

namespace Project

open Command

/-- Extracts all phrases and writes the default locale, the template and a snapshot. Phrases that
have a key in the default locale keep it. -/
def extract (project : Project) : Job Outcome := do
  let config := project.config
  let time ← (Disk.time : Job _)
  let scan ← (project.scan : Job _)
  let found ← ProjectExtraction.ofFiles (Settings.ofConfig config) scan.files
  let localeDir := project.localeDir config.defaultLocale
  let assigner := (Key.Assigner.ofRules (Key.Rules.ofConfig config)).withExisting
    (← Locale.read localeDir)
  let assignment := assigner.assign found.occurrences
  let written ← Locale.writeDefault project assignment.tree
  let snapshot := Snapshot.ofExtraction found assignment time
  let snapshotFile ← snapshot.write project.outputDir time
  let secondary ← if config.generateSecondaryLocale then
      some <$> Locale.writeTarget project config.secondaryLocale
    else pure none
  return {
    summary := .extracted {
      plainCount := found.count .plain
      interpolatedCount := found.count .interpolated
      keyCount := assignment.tree.leaves.length
      moduleCount := written.modules.length
      skips := found.skips
      unassigned := assignment.unassigned
      localeDir
      templatePath := project.templatePath
      snapshotFile
      bootstrapWritten := written.bootstrapWritten
      secondary }
    unreadable := sortedByFile found.unreadable }

/-- Replaces the phrases of the last snapshot in the sources. -/
def rewrite (project : Project) (preview : Bool) : Job Outcome := do
  let snapshot ← Snapshot.latest project.outputDir
  let options : Rewriting.Options :=
    ⟨preview || project.config.preview, project.config.backup⟩
  let summary ← Rewriting.rewriteProject project options snapshot (← (Disk.time : Job _))
  return {
    summary := .rewritten summary
    unreadable := sortedByFile (summary.records.filterMap unreadableFile?) }

/-- Generates the locale of a language. -/
def translate (project : Project) (argument : String) : Job Outcome := do
  match targetLanguage project.config argument with
  | .error failure => throw failure
  | .ok language => return { summary := .translated (← Locale.writeTarget project language) }

/-- Looks for phrases that are left in the sources. -/
def validate (project : Project) : Job Outcome := do
  let scan ← (project.scan : Job _)
  let summary ← (Validation.checkFiles project.config scan.files : Job _)
  let report ← Validation.writeReport project.outputDir summary
  return {
    summary := .validated summary report
    unreadable := sortedByFile (summary.unreadable.map fun file => (file, "could not be read")) }

end Project

/-- Runs a command in its directory. -/
def Invocation.execute (invocation : Invocation) : Job Command.Outcome := do
  match invocation.command with
  | .init => Command.createConfig invocation.root
  | .extract => (← Project.ofDirectory invocation.root).extract
  | .rewrite preview => (← Project.ofDirectory invocation.root).rewrite preview
  | .translate language => (← Project.ofDirectory invocation.root).translate language
  | .validate => (← Project.ofDirectory invocation.root).validate

end Phrasebook
