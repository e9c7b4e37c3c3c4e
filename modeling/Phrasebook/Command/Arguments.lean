import Phrasebook.Project.Path

/-!
The arguments of the command line: a command, its options in any order, and the words it works on.
Arguments are read from left to right, and the first one that does not fit decides the complaint.
-/

namespace Phrasebook

inductive Command
  | init
  | extract
  | rewrite (preview : Bool)
  | translate (language : String)
  | validate
deriving DecidableEq, Repr

/-- A command with the directory that it works in. -/
structure Invocation where
  command : Command
  root : Path := ⟨"."⟩
  verbose : Bool := false
deriving DecidableEq, Repr

namespace Arguments

/-- Why no command is run: a question about the program, or arguments that do not fit. -/
inductive Refusal
  | help
  | version
  | unknownArgument
  | repeatedArgument
  | missingValue
  | surplusValue
  | missingArgument
  | unknownCommand
deriving DecidableEq, Repr

inductive CommandName
  | init
  | extract
  | rewrite
  | translate
  | validate
deriving DecidableEq, Repr

def CommandName.ofWord? : String → Option CommandName
  | "init" => some init
  | "extract" => some extract
  | "rewrite" | "replace" => some rewrite
  | "translate" => some translate
  | "validate" => some validate
  | _ => none

/-- How an argument is written. -/
inductive Form
  /-- Two dashes alone: what follows are words. -/
  | separator
  | long (name : String) (value : Option String)
  /-- Single letters behind one dash. -/
  | letters (names : List Char)
  | word (text : String)
deriving DecidableEq, Repr

private def longForm (cs : List Char) : Form :=
  let name := cs.takeWhile (· != '=')
  .long (String.ofList name) ((cs.drop name.length).tail?.map String.ofList)

def Form.of (argument : String) : Form :=
  match argument.toList with
  | ['-', '-'] => .separator
  | '-' :: '-' :: cs => longForm cs
  | '-' :: c :: cs => .letters (c :: cs)
  | _ => .word argument

/-- What has been read behind a command. -/
structure Given where
  root : Option String := none
  verbose : Bool := false
  preview : Bool := false
  language : Option String := none
  /-- The option for the root is still without its value. -/
  rootPending : Bool := false
  /-- Only words can follow. -/
  wordsOnly : Bool := false

namespace Given

/-- An option that stands before another argument has its value. -/
def settle (g : Given) : Except Refusal Given :=
  if g.rootPending then .error .missingValue else .ok g

def setRoot (g : Given) (value : String) : Except Refusal Given :=
  if g.root.isSome then .error .repeatedArgument
  else if value.isEmpty then .error .missingValue
  else .ok { g with root := some value, rootPending := false }

def setVerbose (g : Given) : Except Refusal Given := do
  let g ← g.settle
  if g.verbose then .error .repeatedArgument else .ok { g with verbose := true }

def setPreview (g : Given) : Except Refusal Given := do
  let g ← g.settle
  if g.preview then .error .repeatedArgument else .ok { g with preview := true }

def askHelp (g : Given) : Except Refusal Given := do
  let _ ← g.settle
  .error .help

/-- An option that takes no value. -/
def flag (value : Option String) (set : Except Refusal Given) : Except Refusal Given :=
  if value.isSome then .error .surplusValue else set

def readLong (command : CommandName) (g : Given) (name : String) (value : Option String) :
    Except Refusal Given :=
  match name with
  | "root" => do
    let g ← g.settle
    match value with
    | some value => g.setRoot value
    | none => .ok { g with rootPending := true }
  | "verbose" => flag value g.setVerbose
  | "help" => flag value g.askHelp
  | "preview" => if command == .rewrite then flag value g.setPreview else .error .unknownArgument
  | _ => .error .unknownArgument

def readLetter (g : Given) : Char → Except Refusal Given
  | 'v' => g.setVerbose
  | 'h' => g.askHelp
  | _ => .error .unknownArgument

def readWord (command : CommandName) (g : Given) (text : String) : Except Refusal Given :=
  if g.rootPending && !g.wordsOnly then g.setRoot text
  else if command == .translate && g.language.isNone then do
    let g ← g.settle
    .ok { g with language := some text }
  else .error .unknownArgument

def read (command : CommandName) (g : Given) (argument : String) : Except Refusal Given :=
  if g.wordsOnly then g.readWord command argument
  else
    match Form.of argument with
    | .separator => .ok { g with wordsOnly := true }
    | .long name value => g.readLong command name value
    | .letters names => names.foldlM readLetter g
    | .word text => g.readWord command text

def command (name : CommandName) (g : Given) : Except Refusal Command :=
  match name with
  | .init => .ok .init
  | .extract => .ok .extract
  | .rewrite => .ok (.rewrite g.preview)
  | .translate =>
    match g.language with
    | some language => .ok (.translate language)
    | none => .error .missingArgument
  | .validate => .ok .validate

end Given

def readCommand (name : CommandName) (arguments : List String) : Except Refusal Invocation := do
  let g ← (← arguments.foldlM (Given.read name) {}).settle
  return ⟨← g.command name, ⟨g.root.getD "."⟩, g.verbose⟩

/-- A question about one command. -/
def readHelp : List String → Refusal
  | [] => .help
  | [word] => if word == "help" || (CommandName.ofWord? word).isSome then .help else .unknownCommand
  | _ => .unknownCommand

def readTopLetter : Char → Refusal
  | 'h' => .help
  | 'V' => .version
  | _ => .unknownArgument

def readTopLong (name : String) (value : Option String) : Refusal :=
  if name == "help" || name == "version" then
    if value.isSome then .surplusValue else if name == "help" then .help else .version
  else .unknownArgument

/-- Behind two dashes the name of a command is a word like others. -/
def readTopWords : List String → Except Refusal (Option Invocation)
  | [] => .ok none
  | word :: _ =>
    if word == "help" || (CommandName.ofWord? word).isSome then .error .unknownArgument
    else .error .unknownCommand

/-- The command that the arguments ask for; none if there are no arguments. -/
def read : List String → Except Refusal (Option Invocation)
  | [] => .ok none
  | argument :: rest =>
    match Form.of argument with
    | .separator => readTopWords rest
    | .long name value => .error (readTopLong name value)
    | .letters names => .error (names.head?.elim .unknownArgument readTopLetter)
    | .word "help" => .error (readHelp rest)
    | .word word =>
      match CommandName.ofWord? word with
      | some name => (readCommand name rest).map some
      | none => .error .unknownCommand

end Arguments
end Phrasebook
