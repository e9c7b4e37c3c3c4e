import Phrasebook.Disk.Action

/-!
A model of a disk: which directories and files there are, and what the files hold.
-/

namespace Phrasebook.Disk

/-- The names on the way down from the root. -/
abbrev Place := List String

inductive Content
  | text (value : String)
  /-- Bytes that are not UTF-8. -/
  | binary (bytes : List UInt8)
deriving DecidableEq

inductive Entry
  | directory
  | file (content : Content)
deriving DecidableEq

def Entry.kind : Entry → EntryKind
  | .directory => .directory
  | .file _ => .file

structure State where
  /-- Everything but the root. -/
  entries : List (Place × Entry) := []
  workingDirectory : Place := []
  clock : Instant := ⟨0⟩

namespace State

def entry? (s : State) : Place → Option Entry
  | [] => some .directory
  | place => s.entries.lookup place

def isDirectory (s : State) (place : Place) : Bool := s.entry? place == some .directory

/-- Puts an entry at a place, instead of the one that is there. -/
def putEntry (place : Place) (entry : Entry) : List (Place × Entry) → List (Place × Entry)
  | [] => [(place, entry)]
  | (other, old) :: rest =>
    if place = other then (place, entry) :: rest else (other, old) :: putEntry place entry rest

def put (s : State) (place : Place) (entry : Entry) : State :=
  { s with entries := putEntry place entry s.entries }

/-- Where a component leads from a directory. -/
def step (place : Place) : Path.Component → Except Fault Place
  | .root => .ok []
  | .current => .ok place
  | .parent => .ok place.dropLast
  | .normal name => if 255 < name.utf8ByteSize then .error .nameTooLong else .ok (place ++ [name])

/-- Where components lead; all that is passed is a directory. -/
def walk (s : State) (place : Place) : List Path.Component → Except Fault Place
  | [] => .ok place
  | component :: rest =>
    match s.entry? place with
    | none => .error .notFound
    | some (.file _) => .error .notADirectory
    | some .directory => do s.walk (← step place component) rest

/-- A path that ends with a slash names a directory. -/
def endsInSlash (path : Path) : Bool :=
  match path.text.toList.reverse with
  | '/' :: _ | '.' :: '/' :: _ => true
  | _ => false

/-- The place that a path names, whether or not something is there. -/
def place (s : State) (path : Path) : Except Fault Place :=
  if path.text.isEmpty then .error .notFound
  else if path.text.toList.contains '\x00' then .error .endOfNameInside
  else s.walk s.workingDirectory
    (path.components ++ if endsInSlash path then [.current] else [])

/-- A place with what is there. -/
def find (s : State) (path : Path) : Except Fault (Place × Entry) := do
  let place ← s.place path
  match s.entry? place with
  | some entry => .ok (place, entry)
  | none => .error .notFound

def canonical (s : State) (path : Path) : Except Fault Path := do
  let (place, _) ← s.find path
  return ⟨"/" ++ "/".intercalate place⟩

def kind? (s : State) (path : Path) : Option EntryKind :=
  match s.find path with
  | .ok (_, entry) => some entry.kind
  | .error _ => none

/-- The name of a place right below a directory. -/
def nameBelow? (directory place : Place) : Option String :=
  if place.dropLast = directory then place.getLast? else none

def list (s : State) (path : Path) : Except Fault (List (String × EntryKind)) := do
  match ← s.find path with
  | (_, .file _) => .error .notADirectory
  | (directory, .directory) =>
    .ok (s.entries.filterMap fun (place, entry) =>
      (nameBelow? directory place).map fun name => (name, entry.kind))

def content (s : State) (path : Path) : Except Fault Content := do
  match ← s.find path with
  | (_, .directory) => .error .isADirectory
  | (_, .file content) => .ok content

def read (s : State) (path : Path) : Except Fault String := do
  match ← s.content path with
  | .text value => .ok value
  | .binary _ => .error .notText

/-- Fills a file, which must stand in a directory that is there. -/
def fill (s : State) (path : Path) (content : Content) : Except Fault State := do
  let place ← s.place path
  match s.entry? place with
  | some .directory => .error .isADirectory
  | some (.file _) => .ok (s.put place (.file content))
  | none =>
    if s.isDirectory place.dropLast then .ok (s.put place (.file content)) else .error .notFound

/-- Copies a file; one that is copied onto itself loses its content. -/
def copy (s : State) (source target : Path) : Except Fault State := do
  let content ← s.content source
  if (← s.place source) = (← s.place target) then s.fill target (.text "")
  else s.fill target content

/-- Creates a directory that is not there; what is there must be one, or the fault arises. -/
def enter (s : State) (place : Place) (fault : Fault) : Except Fault State :=
  match s.entry? place with
  | some .directory => .ok s
  | some (.file _) => .error fault
  | none => .ok (s.put place .directory)

def createAlong (s : State) (place : Place) : List Path.Component → Except Fault State
  | [] => s.enter place .alreadyExists
  | component :: rest =>
    do (← s.enter place .notADirectory).createAlong (← step place component) rest

def createDirectory (s : State) (path : Path) : Except Fault State :=
  if path.text.toList.contains '\x00' then .error .endOfNameInside
  else s.createAlong s.workingDirectory path.components

/-- The state after a change, or the old one if the change cannot be made. -/
def changed (s : State) : Except Fault State → Except Fault Unit × State
  | .ok state => (.ok (), state)
  | .error fault => (.error fault, s)

def answer (s : State) : (request : Request) → request.Answer × State
  | .canonical path => (s.canonical path, s)
  | .kind path => (s.kind? path, s)
  | .list directory => (s.list directory, s)
  | .read file => (s.read file, s)
  | .write file content => s.changed (s.fill file (.text content))
  | .copy source target => s.changed (s.copy source target)
  | .createDirectory directory => s.changed (s.createDirectory directory)
  | .time => (s.clock, s)

end State

/-- Runs a program on a model of a disk. -/
def Action.runOn (action : Action α) (s : State) : α × State := action.run State.answer s

end Phrasebook.Disk
