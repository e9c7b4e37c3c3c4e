import Phrasebook.Disk.Action
import Phrasebook.Extraction.File
import Phrasebook.Project.Context
import Phrasebook.Project.Glob

/-!
The source files of a project: the files with configured extensions below the source directory, less
what the configuration excludes and what commands generate.
-/

namespace Phrasebook

structure SourceFile where
  path : Path
  /-- The path from the root of the project. -/
  relative : String
  kind : FileKind
deriving DecidableEq, Repr

structure Scan where
  /-- Sorted by relative path. -/
  files : List SourceFile := []
  /-- Places that could not be looked at. -/
  skipped : Nat := 0
deriving DecidableEq, Repr

namespace Project

/-- Directories that are not entered. -/
def isExcludedDirectory (project : Project) (path : Path) : Bool :=
  (path.fileName?.any project.config.excludeDirs.contains)
    || path.startsWith project.outputDir || path.startsWith project.backupDir

/-- No directory lies deeper, because longer paths cannot be opened. -/
def maximalDepth : Nat := 4096

/-- The files below a directory, and how many places could not be looked at. -/
def filesBelow (project : Project) : Nat → Path → Disk.Action (List Path × Nat)
  | 0, _ => return ([], 0)
  | depth + 1, directory => do
    match ← Disk.list directory with
    | .error _ => return ([], 1)
    | .ok entries =>
      let found ← entries.mapM fun (name, kind) =>
        let path := directory.join ⟨name⟩
        match kind with
        | .file => return ([path], 0)
        | .directory =>
          if project.isExcludedDirectory path then return ([], 0)
          else project.filesBelow depth path
        | .other => return ([], 0)
      return (found.flatMap (·.1), (found.map (·.2)).foldl (· + ·) 0)

def hasConfiguredExtension (config : Config) (path : Path) : Bool :=
  path.extension?.any fun extension =>
    config.fileExtensions.any fun configured =>
      configured.toList.dropWhile (· == '.') == extension.toList

/-- Patterns for files that are left out; a pattern that cannot be read leaves out none. -/
def excludePatterns (config : Config) : List Glob :=
  config.excludeFiles.filterMap fun pattern => (Glob.read pattern).toOption

/-- The source file at a path, if the configuration selects it. -/
def sourceFile? (project : Project) (path : Path) : Option SourceFile := do
  let relative := project.root.relativeTo path
  let name := path.fileName?.getD path.text
  guard (hasConfiguredExtension project.config path)
  guard !((excludePatterns project.config).any fun glob =>
    glob.accepts name || glob.accepts relative)
  return ⟨path, relative, ← FileKind.ofPath? path⟩

def ofPaths (project : Project) (paths : List Path) : List SourceFile :=
  (paths.filterMap project.sourceFile?).mergeSort fun a b => a.relative ≤ b.relative

def scan (project : Project) : Disk.Action Scan := do
  let start := project.sourceRoot
  match ← Disk.kind? start with
  | none => return { skipped := 1 }
  | some .directory =>
    let (paths, skipped) ← project.filesBelow maximalDepth start
    return ⟨project.ofPaths paths, skipped⟩
  | some .file => return ⟨project.ofPaths [start], 0⟩
  | some .other => return {}

end Project
end Phrasebook
