import Phrasebook.Project.Path
import Phrasebook.Time.Instant

/-!
Programs that use a disk. A program is done with a value, or it makes a request and goes on with the
answer. Whoever runs it gives the answers, so that one program serves a real disk and a model of
one. What can go wrong with a file is said in the words of the operating system.
-/

namespace Phrasebook.Disk

inductive Fault
  | notFound
  | alreadyExists
  | notADirectory
  | isADirectory
  | nameTooLong
  /-- A path holds the character that ends names. -/
  | endOfNameInside
  /-- A file that is not UTF-8. -/
  | notText
  | other (message : String)
deriving DecidableEq, Repr

def Fault.message : Fault → String
  | notFound => "No such file or directory (os error 2)"
  | alreadyExists => "File exists (os error 17)"
  | notADirectory => "Not a directory (os error 20)"
  | isADirectory => "Is a directory (os error 21)"
  | nameTooLong => "File name too long (os error 36)"
  | endOfNameInside => "file name contained an unexpected NUL byte"
  | notText => "stream did not contain valid UTF-8"
  | other message => message

inductive EntryKind
  | directory
  | file
  | other
deriving DecidableEq, Repr

inductive Request
  /-- The path from the root to what is there, without detours. -/
  | canonical (path : Path)
  | kind (path : Path)
  | list (directory : Path)
  | read (file : Path)
  | write (file : Path) (content : String)
  | copy (source target : Path)
  /-- Creates a directory and those that it stands in, unless they are there. -/
  | createDirectory (directory : Path)
  | time

abbrev Request.Answer : Request → Type
  | canonical _ => Except Fault Path
  | kind _ => Option EntryKind
  | list _ => Except Fault (List (String × EntryKind))
  | read _ => Except Fault String
  | write _ _ => Except Fault Unit
  | copy _ _ => Except Fault Unit
  | createDirectory _ => Except Fault Unit
  | time => Instant

inductive Action (α : Type) : Type
  | done (value : α)
  | ask (request : Request) (next : request.Answer → Action α)

namespace Action

def bind : Action α → (α → Action β) → Action β
  | done value, f => f value
  | ask request next, f => ask request fun answer => (next answer).bind f

instance : Monad Action where
  pure := done
  bind := bind

/-- The value of a program and the state it leaves, where a state answers requests. -/
def run (answer : σ → (request : Request) → request.Answer × σ) : Action α → σ → α × σ
  | done value, state => (value, state)
  | ask request next, state =>
    let (reply, state) := answer state request
    (next reply).run answer state

end Action

def request (r : Request) : Action r.Answer := .ask r .done

def canonical (path : Path) : Action (Except Fault Path) := request (.canonical path)

def kind? (path : Path) : Action (Option EntryKind) := request (.kind path)

def isThere (path : Path) : Action Bool := return (← kind? path).isSome

def list (directory : Path) : Action (Except Fault (List (String × EntryKind))) :=
  request (.list directory)

def read (file : Path) : Action (Except Fault String) := request (.read file)

def write (file : Path) (content : String) : Action (Except Fault Unit) :=
  request (.write file content)

def copy (source target : Path) : Action (Except Fault Unit) := request (.copy source target)

def createDirectory (directory : Path) : Action (Except Fault Unit) :=
  request (.createDirectory directory)

def time : Action Instant := request .time

end Phrasebook.Disk
