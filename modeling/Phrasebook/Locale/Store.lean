import Phrasebook.Failure
import Phrasebook.Locale.Bootstrap
import Phrasebook.Locale.TemplateText
import Phrasebook.Locale.Translation
import Phrasebook.Project.Context

/-!
Locales on the disk. A locale is a directory with one file for each of its modules; beside them
stand the script that loads them and the template for translations.
-/

namespace Phrasebook.Locale

/-- Writes the modules to their files and gives the paths, behind those of modules written before.
-/
def writeModules (directory : Path) (written : List Path) :
    List (String × ResourceNode) → Job (List Path)
  | [] => return written
  | (name, node) :: rest => do
    let file := directory.join ⟨moduleFileName name⟩
    if written.any (·.components == file.components) then throw (.sharedModuleFile name file)
    Job.writeFile file node.moduleText
    writeModules directory (written ++ [file]) rest

def write (directory : Path) (tree : ResourceTree) : Job (List Path) := do
  Job.createDirectory directory
  writeModules directory [] tree.modules

/-- The files of a directory that hold modules. -/
def moduleFiles (directory : Path) (names : List String) : List Path :=
  ((names.map fun name => directory.join ⟨name⟩).filter (·.extension? == some "js")).mergeSort
    fun a b => a.text ≤ b.text

/-- The name of the module that a file holds. -/
def moduleOfFile (file : Path) : String := Text.capitalize (file.stem?.getD "")

def readModules (tree : ResourceTree) : List Path → Job ResourceTree
  | [] => return tree
  | file :: rest => do
    match ModuleFile.read (← Job.readFile file) with
    | .ok members => readModules (tree.setModule (moduleOfFile file) (.group members)) rest
    | .error fault => throw (.malformedModule file fault)

/-- The resources of a locale; none if there is no directory for it. -/
def read (directory : Path) : Job ResourceTree := do
  if (← (Disk.kind? directory : Job _)) != some .directory then return {}
  let entries ← Job.attempt (.readDirectory directory) (Disk.list directory)
  readModules {} (moduleFiles directory (entries.map (·.1)))

/-- Writes the loading script if there is none; the answer tells whether it did. -/
def writeBootstrap (project : Project) : Job Bool := do
  let file := project.langDir.join ⟨"index.js"⟩
  if ← (Disk.isThere file : Job _) then return false
  Job.createDirectory project.langDir
  Job.writeFile file (bootstrap project.config.defaultLocale)
  return true

/-- The template for a tree, with the translations of the one that is on the disk. -/
def mergedTemplate (file : Path) (tree : ResourceTree) : Job Template := do
  let template := Template.ofTree tree
  if ← (Disk.isThere file : Job _) then
    return template.mergePrevious (Template.read (← Job.readFile file))
  else return template

def writeTemplate (project : Project) (tree : ResourceTree) : Job Unit := do
  let file := project.templatePath
  let template ← mergedTemplate file tree
  match file.parent? with
  | some directory => Job.createDirectory directory
  | none => pure ()
  Job.writeFile file template.render

/-- What writing the default locale did. -/
structure DefaultOutput where
  modules : List Path
  bootstrapWritten : Bool

def writeDefault (project : Project) (tree : ResourceTree) : Job DefaultOutput := do
  let modules ← write (project.localeDir project.config.defaultLocale) tree
  let bootstrapWritten ← writeBootstrap project
  writeTemplate project tree
  return ⟨modules, bootstrapWritten⟩

/-- What generating a locale from a template did. -/
structure TargetOutput where
  language : String
  modules : List Path
  missing : List MissingTranslation
  report : Option Path

/-- Writes the report of what is missing, unless nothing is. -/
def writeMissing (project : Project) (language : String) (missing : List MissingTranslation) :
    Job (Option Path) := do
  if missing.isEmpty then return none
  let file :=
    project.outputDir.join ⟨"missing-translations-" ++ Text.lowercase language ++ ".md"⟩
  Job.writeFile file (MissingTranslation.report language missing)
  return some file

/-- Writes the translation of a tree, and what it lacks. -/
def writeTranslated (project : Project) (language : String) (template : Template)
    (tree : ResourceTree) : Job TargetOutput := do
  let (translated, missing) := template.translateTree tree
  let modules ← write (project.localeDir language) translated
  let report ← writeMissing project language missing
  return ⟨Text.lowercase language, modules, missing, report⟩

/-- Generates the locale of a language from the default one by way of the template. -/
def writeTarget (project : Project) (language : String) : Job TargetOutput := do
  let defaultDir := project.localeDir project.config.defaultLocale
  let tree ← read defaultDir
  if tree.isEmpty then throw (.missing .defaultLocale defaultDir)
  if !(← (Disk.isThere project.templatePath : Job _)) then
    throw (.missing .template project.outputDir)
  writeTranslated project language (Template.read (← Job.readFile project.templatePath)) tree

end Phrasebook.Locale
