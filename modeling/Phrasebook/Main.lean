import Phrasebook.Command.Output
import Std.Time.DateTime.Timestamp

/-!
The program: runs a command on the disk of the machine and prints what it reports.
-/

namespace Phrasebook

namespace Disk

/-- The cause behind an error of the machine. -/
def Fault.ofError : IO.Error → Fault
  | .noFileOrDirectory .. => .notFound
  | .alreadyExists .. => .alreadyExists
  | .inappropriateType _ 20 _ => .notADirectory
  | .inappropriateType _ 21 _ => .isADirectory
  | error => .other error.toString

def attempted (action : IO α) : IO (Except Fault α) := do
  match ← action.toBaseIO with
  | .ok value => return .ok value
  | .error error => return .error (.ofError error)

def kindOf : IO.FS.FileType → EntryKind
  | .dir => .directory
  | .file => .file
  | _ => .other

def readText (file : String) : IO (Except Fault String) := do
  match ← attempted (IO.FS.readBinFile file) with
  | .error fault => return .error fault
  | .ok bytes => return (String.fromUTF8? bytes).elim (.error .notText) .ok

def entriesOf (directory : String) : IO (List (String × EntryKind)) := do
  let entries ← (← IO.FS.realPath directory).readDir
  entries.toList.mapM fun entry =>
    return (entry.fileName, kindOf (← entry.path.symlinkMetadata).type)

/-- Empties the target before the first byte is read, so that a file that is copied onto itself is
lost. -/
def copyFile (source target : String) : IO Unit := do
  let input ← IO.FS.Handle.mk source .read
  let output ← IO.FS.Handle.mk target .write
  output.write (← input.readBinToEnd)

def answer : (request : Request) → IO request.Answer
  | .canonical path => attempted (return ⟨(← IO.FS.realPath path.text).toString⟩)
  | .kind path => do
    match ← attempted (do (← IO.FS.realPath path.text).metadata) with
    | .ok data => return some (kindOf data.type)
    | .error _ => return none
  | .list directory => attempted (entriesOf directory.text)
  | .read file => readText file.text
  | .write file content => attempted (IO.FS.writeFile file.text content)
  | .copy source target => attempted (copyFile source.text target.text)
  | .createDirectory directory => attempted (IO.FS.createDirAll directory.text)
  | .time => return ⟨(← Std.Time.Timestamp.now).toSecondsSinceUnixEpoch.val⟩

/-- Runs a program on the disk of the machine. -/
def Action.perform : Action α → IO α
  | done value => return value
  | ask request next => do (next (← answer request)).perform

end Disk

/-- How to call the program. -/
def usage : String := "Usage: phrasebook <command> [--root <directory>] [-v | --verbose]

Commands:
  init               Write a configuration file with the defaults
  extract            Extract phrases into a locale, a template and a snapshot
  rewrite            Replace extracted phrases by translation calls (--preview writes nothing)
  translate <lang>   Generate the locale of a language from the template
  validate           Report phrases that are left in the sources
"

def Arguments.Refusal.message : Arguments.Refusal → String
  | help => usage
  | version => "phrasebook 0.1.0\n"
  | unknownArgument => "error: unexpected argument\n"
  | repeatedArgument => "error: an argument cannot be used more than once\n"
  | missingValue => "error: a value is required for '--root'\n"
  | surplusValue => "error: an argument takes no value\n"
  | missingArgument => "error: a language is required\n"
  | unknownCommand => "error: unrecognized command\n"

def refuse (refusal : Arguments.Refusal) : IO UInt32 := do
  if refusal == .help || refusal == .version then
    IO.print refusal.message
    return 0
  else
    IO.eprint refusal.message
    return 2

/-- Runs a command and prints its report. A refusal to run ends with 1, any other failure with 2. -/
def Invocation.main (invocation : Invocation) : IO UInt32 := do
  match ← (invocation.execute : Disk.Action _).perform with
  | .ok outcome =>
    IO.print (outcome.report invocation.verbose)
    IO.eprint (outcome.warnings invocation.verbose)
    return 0
  | .error failure =>
    IO.eprintln ("Error: " ++ failure.message)
    return if failure matches .configExists _ then 1 else 2

end Phrasebook

open Phrasebook in
def main (arguments : List String) : IO UInt32 := do
  match Arguments.read arguments with
  | .error refusal => refuse refusal
  | .ok none => refuse .help
  | .ok (some invocation) => invocation.main
