import Phrasebook.Json.Printer
import Phrasebook.Json.Value
import Phrasebook.Text.Search
import Phrasebook.Text.Table

/-!
Resources of a locale: texts under dotted keys. The first component of a key names a module, the
last one a text, and those between them groups. Groups keep the order in which they were filled.
-/

namespace Phrasebook

/-- A value that is no text. Files written by hand may hold such values. -/
inductive Scalar
  | null
  | boolean (value : Bool)
  | number (value : JsonNumber)
deriving DecidableEq, Repr

inductive ResourceNode
  | text (value : String)
  | scalar (value : Scalar)
  | group (members : List (String × ResourceNode))

structure ResourceTree where
  modules : List (String × ResourceNode) := []

/-- Why a key cannot hold a text. -/
inductive KeyConflict
  | throughLeaf (key leaf : String)
  | isGroup (key : String)
  | occupied (key existing : String)
  | malformed (key : String)
deriving DecidableEq, Repr

def KeyConflict.message : KeyConflict → String
  | throughLeaf key leaf => s!"'{key}' passes through the text entry '{leaf}'"
  | isGroup key => s!"'{key}' is already a group of keys"
  | occupied key existing => s!"'{key}' already holds \"{existing}\""
  | malformed key => s!"'{key}' is not a valid key path"

namespace ResourceNode

/-- The node at a path below. -/
def descend? : ResourceNode → List String → Option ResourceNode
  | node, [] => some node
  | group members, name :: path => (members.lookup name).bind (descend? · path)
  | _, _ :: _ => none

def text? : ResourceNode → Option String
  | text value => some value
  | _ => none

/-- Groups that hold a text at a path and nothing else. -/
def chain (value : String) : List String → ResourceNode
  | [] => text value
  | name :: path => group [(name, chain value path)]

/-- Puts a text at a path below a group. The names passed on the way down come in reverse order. -/
def insertBelow (key value : String) :
    List String → List String → List (String × ResourceNode) →
    Except KeyConflict (List (String × ResourceNode))
  | _, [], _ => .error (.malformed key)
  | _, [name], members =>
    match members.lookup name with
    | none => .ok (Text.put name (text value) members)
    | some (text existing) =>
      if existing = value then .ok members else .error (.occupied key existing)
    | some _ => .error (.isGroup key)
  | passed, name :: next :: path, members =>
    match members.lookup name with
    | none => .ok (Text.put name (chain value (next :: path)) members)
    | some (group inner) =>
      (insertBelow key value (name :: passed) (next :: path) inner).map fun inner =>
        Text.put name (group inner) members
    | some _ => .error (.throughLeaf key (".".intercalate (name :: passed).reverse))

end ResourceNode

namespace ResourceTree

def isEmpty (tree : ResourceTree) : Bool := tree.modules.isEmpty

/-- A key path has a module and a name, and no component is empty. -/
def isKeyPath (path : List String) : Bool := 2 ≤ path.length && path.all (!·.isEmpty)

/-- Puts a text under a key. A text that is there already may be put again. -/
def insert (tree : ResourceTree) (key value : String) : Except KeyConflict ResourceTree :=
  let path := Text.splitDots key
  if isKeyPath path then (ResourceNode.insertBelow key value [] path tree.modules).map mk
  else .error (.malformed key)

def get? (tree : ResourceTree) (key : String) : Option ResourceNode :=
  (ResourceNode.group tree.modules).descend? (Text.splitDots key)

def text? (tree : ResourceTree) (key : String) : Option String :=
  (tree.get? key).bind ResourceNode.text?

def setModule (tree : ResourceTree) (name : String) (node : ResourceNode) : ResourceTree :=
  ⟨Text.put name node tree.modules⟩

end ResourceTree

def Scalar.toJson : Scalar → Json
  | null => .null
  | boolean value => .boolean value
  | number value => .number value

namespace ResourceNode

mutual

def toJson : ResourceNode → Json
  | text value => .text value
  | scalar value => value.toJson
  | group members => .object (membersToJson members)

def membersToJson : List (String × ResourceNode) → List (String × Json)
  | [] => []
  | (name, node) :: members => (name, toJson node) :: membersToJson members

end
end ResourceNode

def ResourceTree.toJson (tree : ResourceTree) : Json := (ResourceNode.group tree.modules).toJson

/-- The text of a value that is no text. -/
def Scalar.toText (value : Scalar) : String := value.toJson.compact

end Phrasebook
