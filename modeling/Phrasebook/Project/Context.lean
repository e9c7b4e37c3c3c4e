import Phrasebook.Config.Basic
import Phrasebook.Project.Path
import Phrasebook.Text.Case

/-!
A project: its root directory and its configuration, which names places relative to the root.
-/

namespace Phrasebook

structure Project where
  root : Path
  config : Config := {}
  /-- The file that the configuration was read from; none if it is the default one. -/
  configFile : Option Path := none

namespace Project

/-- The place that a configured path names. A dot in front of it does not count. -/
def resolve (project : Project) (configured : String) : Path :=
  let path := (Path.strip? ⟨"./"⟩ ⟨configured⟩).getD ⟨configured⟩
  if path.text.isEmpty then project.root else project.root.join path

def sourceRoot (project : Project) : Path := project.resolve project.config.targetRoot

def outputDir (project : Project) : Path := project.resolve project.config.outputDir

/-- The directory of all locales. -/
def langDir (project : Project) : Path := project.outputDir.join ⟨"lang"⟩

def localeDir (project : Project) (locale : String) : Path :=
  project.langDir.join ⟨Text.lowercase locale⟩

def templatePath (project : Project) : Path := project.outputDir.join ⟨"translation-template.txt"⟩

def backupDir (project : Project) : Path := project.resolve project.config.backupDir

/-- Names of files that configure a build. -/
def buildFiles : List String := [
  "vue.config.js", "babel.config.js", ".eslintrc.js", "postcss.config.js", "jest.config.js",
  "webpack.config.js", "vite.config.js", "vite.config.ts", "tsconfig.json"]

/-- Files that are never rewritten: those that configure a build, and generated ones. -/
def isProtected (project : Project) (relative : String) : Bool :=
  let name := String.ofList (relative.toList.reverse.takeWhile (· != '/')).reverse
  buildFiles.contains name || (project.root.join ⟨relative⟩).startsWith project.outputDir

end Project
end Phrasebook
