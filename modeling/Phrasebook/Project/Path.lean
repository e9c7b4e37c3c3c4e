import Phrasebook.Text.Search

/-!
Paths. A path is kept as it is written, and compared by its components: repeated slashes and inner
dots do not count, a leading dot and `..` do.
-/

namespace Phrasebook

structure Path where
  text : String
deriving DecidableEq, Repr, Inhabited

namespace Path

inductive Component
  | root
  | current
  | parent
  | normal (name : String)
deriving DecidableEq, Repr

def Component.text : Component → String
  | root => "/"
  | current => "."
  | parent => ".."
  | normal name => name

def namedComponents (pieces : List (List Char)) : List Component :=
  pieces.filterMap fun piece =>
    if piece.isEmpty || piece == ['.'] then none
    else if piece == ['.', '.'] then some .parent
    else some (.normal (String.ofList piece))

def components (path : Path) : List Component :=
  match path.text.toList with
  | [] => []
  | '/' :: cs => .root :: namedComponents (Text.splitOnChar '/' cs)
  | cs =>
    match Text.splitOnChar '/' cs with
    | ['.'] :: pieces => .current :: namedComponents pieces
    | pieces => namedComponents pieces

def isAbsolute (path : Path) : Bool := path.text.toList.head? == some '/'

/-- The second path inside the first one, unless it is absolute. -/
def join (base path : Path) : Path :=
  if path.isAbsolute then path
  else if base.text.isEmpty || base.text.toList.getLast? == some '/' then ⟨base.text ++ path.text⟩
  else ⟨base.text ++ "/" ++ path.text⟩

def startsWith (path base : Path) : Bool := base.components.isPrefixOf path.components

/-- Drops slashes, and components of a single dot, that stand in front. -/
def trimFront : List Char → List Char
  | '/' :: cs => trimFront cs
  | '.' :: '/' :: cs => trimFront cs
  | ['.'] => []
  | cs => cs

def trimBackReversed : List Char → List Char
  | '/' :: cs => trimBackReversed cs
  | '.' :: '/' :: cs => trimBackReversed cs
  | cs => cs

/-- Drops slashes, and components of a single dot, that stand at the end. -/
def trimBack (cs : List Char) : List Char := (trimBackReversed cs.reverse).reverse

/-- The text behind the first `n` components. -/
def dropComponents : Nat → List Char → List Char
  | 0, cs => trimFront cs
  | n + 1, cs => dropComponents n ((trimFront cs).dropWhile (· != '/'))

/-- What remains of a path behind a base, if its components begin with those of the base. -/
def strip? (base path : Path) : Option Path :=
  if path.startsWith base then
    match base.components with
    | [] => some path
    | .root :: rest | .current :: rest =>
      some ⟨String.ofList (trimBack (dropComponents rest.length (path.text.toList.drop 1)))⟩
    | rest => some ⟨String.ofList (trimBack (dropComponents rest.length path.text.toList))⟩
  else none

/-- The last component, if it is a name. -/
def fileName? (path : Path) : Option String :=
  match path.components.getLast? with
  | some (.normal name) => some name
  | _ => none

/-- A name split at its last dot; a dot in front does not count. -/
def splitExtension (name : String) : String × Option String :=
  let after := name.toList.reverse.takeWhile (· != '.')
  let before := name.toList.reverse.drop (after.length + 1)
  if before.isEmpty || name == ".." then (name, none)
  else (String.ofList before.reverse, some (String.ofList after.reverse))

def extension? (path : Path) : Option String := path.fileName?.bind fun name =>
    (splitExtension name).2

/-- The file name without its extension. -/
def stem? (path : Path) : Option String := path.fileName?.map fun name => (splitExtension name).1

/-- The path without its last component; none for a root and for the empty path. -/
def parent? (path : Path) : Option Path :=
  match path.components.getLast? with
  | none | some .root => none
  | some last =>
    let body := (trimBack path.text.toList).reverse.drop last.text.length
    let rest := (trimBack body.reverse)
    if rest.isEmpty && path.isAbsolute then some ⟨"/"⟩ else some ⟨String.ofList rest⟩

private def ancestorsFrom : Nat → Path → List Path
  | 0, path => [path]
  | n + 1, path =>
    path :: match path.parent? with
      | some parent => ancestorsFrom n parent
      | none => []

/-- The path, its parent, and so on. -/
def ancestors (path : Path) : List Path := ancestorsFrom path.components.length path

/-- The path up to the end of the file name without its extension. -/
def upToStem (path : Path) : Path :=
  match path.fileName?, path.stem? with
  | some name, some stem =>
    let body := trimBack path.text.toList
    ⟨String.ofList (body.take (body.length - (name.length - stem.length)))⟩
  | _, _ => path

def withoutExtension (path : Path) : Path :=
  match path.extension? with
  | some extension =>
    upToStem ⟨String.ofList (path.text.toList.take (path.text.length - extension.length))⟩
  | none => upToStem path

/-- Components one inside the other. -/
def ofComponents (components : List Component) : Path :=
  components.foldl (fun path component => path.join ⟨component.text⟩) ⟨""⟩

/-- The steps from a base to a path, both given by their components, behind steps already found.
There are none if the base goes up to a directory without a name. -/
def stepsFrom? : List Component → List Component → List Component → Option (List Component)
  | done, [], [] => some done
  | done, path, [] => some (done ++ path)
  | done, [], _ :: base => stepsFrom? (done ++ [.parent]) [] base
  | done, a :: path, b :: base =>
    if done.isEmpty && a == b then stepsFrom? done path base
    else match b with
    | .current => stepsFrom? (done ++ [a]) path base
    | .parent => none
    | _ => some (done ++ .parent :: base.map (fun _ => .parent) ++ a :: path)

/-- The path as it is reached from a base, if there is a way. -/
def reachedFrom? (base path : Path) : Option Path :=
  if path.isAbsolute == base.isAbsolute then
    (stepsFrom? [] path.components base.components).map ofComponents
  else none

/-- The components with slashes between them. -/
def spelled (path : Path) : String := "/".intercalate (path.components.map Component.text)

/-- A path under a root, by components; a path elsewhere is spelled as it is. -/
def relativeTo (root path : Path) : String := ((strip? root path).getD path).spelled

end Path
end Phrasebook
