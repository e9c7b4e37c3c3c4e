import Phrasebook.Resource.Basic

/-!
The leaves of a resource tree, each with its key.
-/

namespace Phrasebook

/-- The key of a member of the group with this key. -/
def keyBelow (path name : String) : String := path ++ "." ++ name

namespace ResourceNode

mutual

/-- Texts and other values, depth first. -/
def leaves (path : String) : ResourceNode → List (String × String)
  | text value => [(path, value)]
  | scalar value => [(path, value.toText)]
  | group members => memberLeaves path members

def memberLeaves (path : String) : List (String × ResourceNode) → List (String × String)
  | [] => []
  | (name, node) :: members => leaves (keyBelow path name) node ++ memberLeaves path members

end

mutual

/-- Texts only, depth first. -/
def texts (path : String) : ResourceNode → List (String × String)
  | text value => [(path, value)]
  | scalar _ => []
  | group members => memberTexts path members

def memberTexts (path : String) : List (String × ResourceNode) → List (String × String)
  | [] => []
  | (name, node) :: members => texts (keyBelow path name) node ++ memberTexts path members

end

mutual

/-- Replaces every text by a function of its key and itself. -/
def mapTexts (f : String → String → String) (path : String) : ResourceNode → ResourceNode
  | text value => text (f path value)
  | scalar value => scalar value
  | group members => group (mapMembers f path members)

def mapMembers (f : String → String → String) (path : String) :
    List (String × ResourceNode) → List (String × ResourceNode)
  | [] => []
  | (name, node) :: members =>
    (name, mapTexts f (keyBelow path name) node) :: mapMembers f path members

end

section

variable {m : Type → Type} [Monad m]

mutual

/-- Replaces every text by what a program makes of its key and itself, depth first. -/
def mapTextsM (f : String → String → m String) (path : String) : ResourceNode → m ResourceNode
  | text value => return text (← f path value)
  | scalar value => return scalar value
  | group members => return group (← mapMembersM f path members)

def mapMembersM (f : String → String → m String) (path : String) :
    List (String × ResourceNode) → m (List (String × ResourceNode))
  | [] => return []
  | (name, node) :: members => do
    let changed ← mapTextsM f (keyBelow path name) node
    return (name, changed) :: (← mapMembersM f path members)

end
end
end ResourceNode

namespace ResourceTree

def leaves (tree : ResourceTree) : List (String × String) :=
  tree.modules.flatMap fun (name, node) => node.leaves name

def texts (tree : ResourceTree) : List (String × String) :=
  tree.modules.flatMap fun (name, node) => node.texts name

def mapTexts (f : String → String → String) (tree : ResourceTree) : ResourceTree :=
  ⟨tree.modules.map fun (name, node) => (name, node.mapTexts f name)⟩

def mapTextsM {m : Type → Type} [Monad m] (f : String → String → m String) (tree : ResourceTree) :
    m ResourceTree :=
  return ⟨← tree.modules.mapM fun (name, node) => return (name, ← node.mapTextsM f name)⟩

/-- Inserts a list of leaves and tells which of them are in conflict. -/
def insertAll (tree : ResourceTree) : List (String × String) → ResourceTree × List KeyConflict
  | [] => (tree, [])
  | (key, value) :: leaves =>
    match tree.insert key value with
    | .ok grown => grown.insertAll leaves
    | .error conflict =>
      let (grown, conflicts) := tree.insertAll leaves
      (grown, conflict :: conflicts)

/-- Adds the leaves of another tree that are not here yet. -/
def mergeMissing (tree other : ResourceTree) : ResourceTree × List KeyConflict :=
  tree.insertAll other.leaves

end ResourceTree
end Phrasebook
