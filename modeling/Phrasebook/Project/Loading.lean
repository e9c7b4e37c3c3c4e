import Phrasebook.Config.Json
import Phrasebook.Failure
import Phrasebook.Json.Reader
import Phrasebook.Project.Context

/-!
Loading of a project. Its configuration is the first one found on the way up from where the search
starts; the directory of a repository ends the search.
-/

namespace Phrasebook

/-- The name of a configuration file. -/
def configFileName : Path := ⟨".i18nrc.json"⟩

/-- The configuration file in the first of these directories that has one. -/
def findConfig? : List Path → Disk.Action (Option Path)
  | [] => return none
  | directory :: rest => do
    let file := directory.join configFileName
    if ← Disk.isThere file then return some file
    if ← Disk.isThere (directory.join ⟨".git"⟩) then return none
    findConfig? rest

/-- The configuration that a file holds. -/
def Config.ofFile (file : Path) (content : String) : Except ConfigFault Config := do
  match Json.read content.toList with
  | .error fault => throw (.malformed file fault.message)
  | .ok json =>
    match Config.ofJson json with
    | .error error => throw (.malformed file error.message)
    | .ok config =>
      match config.check with
      | .error problem => throw (.unmet problem)
      | .ok () => return config

namespace Project

/-- The project that a configuration file belongs to. -/
def ofConfigFile (file : Path) : Job Project := do
  match ← (Disk.read file : Job _) with
  | .error fault => throw (.invalidConfig (.unreadable fault))
  | .ok content =>
    match Config.ofFile file content with
    | .error fault => throw (.invalidConfig fault)
    | .ok config => return ⟨file.parent?.getD file, config, some file⟩

/-- The project that a directory belongs to; the directory itself if there is no configuration. -/
def load (start : Path) : Job Project := do
  match ← (findConfig? start.ancestors : Job _) with
  | some file => ofConfigFile file
  | none => return { root := start }

/-- The project of a directory that is given in any form. -/
def ofDirectory (root : Path) : Job Project := do
  match ← (Disk.canonical root : Job _) with
  | .ok start => load start
  | .error fault => throw (.rootNotFound root fault)

end Project
end Phrasebook
