import Phrasebook.Config.Check
import Phrasebook.Disk.Action
import Phrasebook.Resource.ModuleFile
import Phrasebook.Text.Search

/-!
Causes that end a command. All else that goes wrong is noted and reported.
-/

namespace Phrasebook

/-- What a command was doing when the disk refused. -/
inductive DiskTask
  | createDirectory (path : Path)
  | readDirectory (path : Path)
  | readFile (path : Path)
  | writeFile (path : Path)
  | backUp (source target : Path)
deriving DecidableEq, Repr

def DiskTask.text : DiskTask → String
  | createDirectory path => "Failed to create directory: " ++ path.text
  | readDirectory path => "Failed to read directory: " ++ path.text
  | readFile path => "Failed to read file: " ++ path.text
  | writeFile path => "Failed to write file: " ++ path.text
  | backUp source target => "Failed to back up " ++ source.text ++ " to " ++ target.text

/-- Files that one command leaves for another. -/
inductive Artifact
  | snapshot
  | defaultLocale
  | template
deriving DecidableEq, Repr

def Artifact.text : Artifact → String
  | snapshot => "extraction snapshot"
  | defaultLocale => "default locale resources"
  | template => "translation template"

/-- Why there is no usable configuration. -/
inductive ConfigFault
  | unreadable (fault : Disk.Fault)
  | malformed (file : Path) (detail : String)
  | unmet (problem : Config.Problem)
deriving DecidableEq, Repr

/-- A path in quotes, with escapes for what would break them. -/
def quotedPath (path : Path) : String :=
  let quoted := path.text.toList.flatMap fun
    | '"' => ['\\', '"']
    | '\\' => ['\\', '\\']
    | '\n' => ['\\', 'n']
    | '\r' => ['\\', 'r']
    | '\t' => ['\\', 't']
    | c => [c]
  "\"" ++ String.ofList quoted ++ "\""

def ConfigFault.message : ConfigFault → String
  | unreadable fault => fault.message
  | malformed file detail => "Failed to parse config file: " ++ quotedPath file ++ ": " ++ detail
  | unmet problem => problem.message

inductive Failure
  | rootNotFound (root : Path) (fault : Disk.Fault)
  | invalidConfig (fault : ConfigFault)
  | configExists (file : Path)
  /-- A file that `extract` makes is not there. -/
  | missing (artifact : Artifact) (directory : Path)
  | disk (task : DiskTask) (fault : Disk.Fault)
  | malformedModule (file : Path) (fault : ModuleFile.Fault)
  | malformedSnapshot (file : Path) (detail : String)
  /-- Two modules would be written to one file. -/
  | sharedModuleFile (module : String) (file : Path)
  | invalidLanguage (language : String)
  | defaultLanguage (language : String)
  /-- A literal of a script begins or ends inside a character. -/
  | misaligned (file : String)
deriving DecidableEq, Repr

def Failure.message : Failure → String
  | rootNotFound root fault => "Project root not found: " ++ root.text ++ ": " ++ fault.message
  | invalidConfig fault => "invalid configuration: " ++ fault.message
  | configExists file => file.text ++ " already exists"
  | missing artifact directory =>
    artifact.text ++ " not found in " ++ directory.text ++ "; run \x60extract\x60 first"
  | disk task fault => task.text ++ ": " ++ fault.message
  | malformedModule file fault => fault.message file.text
  | malformedSnapshot file detail => "Failed to parse snapshot: " ++ file.text ++ ": " ++ detail
  | sharedModuleFile module file =>
    "Module \"" ++ module ++ "\" would overwrite " ++ file.text
      ++ "; module names differ only in case"
  | invalidLanguage language => "Invalid language code: \"" ++ language ++ "\""
  | defaultLanguage language =>
    "\"" ++ language ++ "\" is the default locale; its resources come from \x60extract\x60"
  | misaligned file => file ++ ": a literal is cut inside a character"

/-- A program that uses a disk and may fail. -/
abbrev Job := ExceptT Failure Disk.Action

namespace Job

def attempt (task : DiskTask) (action : Disk.Action (Except Disk.Fault α)) : Job α := do
  match ← (action : Job _) with
  | .ok value => return value
  | .error fault => throw (.disk task fault)

def readFile (file : Path) : Job String := attempt (.readFile file) (Disk.read file)

def writeFile (file : Path) (content : String) : Job Unit :=
  attempt (.writeFile file) (Disk.write file content)

def createDirectory (directory : Path) : Job Unit :=
  attempt (.createDirectory directory) (Disk.createDirectory directory)

end Job
end Phrasebook
