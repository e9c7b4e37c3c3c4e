import Phrasebook.Key.Rules
import Phrasebook.Occurrence.Basic
import Phrasebook.Resource.Leaves
import Phrasebook.Text.Table

/-!
Assignment of keys. A phrase keeps the key that it has, and no two phrases share one.
-/

namespace Phrasebook

namespace Key

structure Assigner where
  rules : Rules
  /-- The first key of each phrase. -/
  byText : List (String × String) := []
  /-- The phrase of each key. -/
  byKey : List (String × String) := []
  /-- The last counter that was tried behind each base key. -/
  counters : List (String × Nat) := []
  tree : ResourceTree := {}

namespace Assigner

def ofRules (rules : Rules) : Assigner := { rules }

/-- Notes the key of a phrase. A phrase that has a key keeps it. -/
def record (a : Assigner) (key phrase : String) : Assigner :=
  { a with byText := Text.putNew phrase key a.byText, byKey := Text.put key phrase a.byKey }

/-- Goes on from a tree: its phrases keep their keys, and new ones take none of these. -/
def withExisting (a : Assigner) (tree : ResourceTree) : Assigner :=
  { tree.leaves.foldl (fun a (key, phrase) => a.record key phrase) a with tree }

/-- Whether a phrase may have a key: no other phrase has it, and it was given to none by hand. -/
def isFree (a : Assigner) (phrase key : String) : Bool :=
  (match a.byKey.lookup key with
    | some holder => holder == phrase
    | none => true) && !a.rules.overrides.any (·.2 == key)

/-- A base key with a counter behind it. -/
def numbered (base : String) (counter : Nat) : String := base ++ toString counter

/-- The first counter behind this one whose key is free. Of more keys than are taken one is free. -/
def freeCounter (a : Assigner) (phrase base : String) : Nat → Nat → Nat
  | 0, counter => counter + 1
  | fuel + 1, counter =>
    if a.isFree phrase (numbered base (counter + 1)) then counter + 1
    else freeCounter a phrase base fuel (counter + 1)

/-- The base key or, if that is taken, the next free one with a counter. -/
def unique (a : Assigner) (base phrase : String) : String × Assigner :=
  if a.isFree phrase base then (base, a)
  else
    let last := (a.counters.lookup base).getD 0
    let counter := a.freeCounter phrase base (a.byKey.length + a.rules.overrides.length) last
    (numbered base counter, { a with counters := Text.put base counter a.counters })

/-- The key for a phrase of a file: the one given by hand, else the one it has, else a new one. -/
def keyFor (a : Assigner) (file phrase : String) : String × Assigner :=
  match a.rules.overrides.lookup phrase with
  | some key => (key, a)
  | none =>
    match a.byText.lookup phrase with
    | some key => (key, a)
    | none =>
      let name := Rules.suggest a.rules.strategy phrase
      a.unique (keyBelow (a.rules.moduleOf file) name) phrase

end Assigner
end Key

/-- The key of an occurrence, with the expressions of its placeholders. -/
structure KeyEntry where
  key : String
  bindings : List Binding
deriving DecidableEq, Repr

structure Assignment where
  /-- By location key, sorted. -/
  entries : List (String × KeyEntry) := []
  tree : ResourceTree := {}
  /-- Location keys of the occurrences without a key. -/
  unassigned : List (String × KeyConflict) := []

namespace Key.Assigner

/-- Assigns a key to one occurrence, if its key can hold the phrase. -/
def assignOne (a : Assigner) (o : Occurrence) : Assigner × Except KeyConflict KeyEntry :=
  let (key, a) := a.keyFor o.file o.text
  match a.tree.insert key o.text with
  | .error conflict => (a, .error conflict)
  | .ok tree => ({ a with tree }.record key o.text, .ok ⟨key, o.captured⟩)

def assignFrom (a : Assigner) (done : Assignment) : List Occurrence → Assignment
  | [] => { done with tree := a.tree }
  | o :: rest =>
    match a.assignOne o with
    | (a, .ok entry) =>
      assignFrom a { done with entries := Text.insertSorted o.locationKey entry done.entries } rest
    | (a, .error conflict) =>
      assignFrom a { done with unassigned := done.unassigned ++ [(o.locationKey, conflict)] } rest

/-- Assigns keys to occurrences in their order. -/
def assign (a : Assigner) (occurrences : List Occurrence) : Assignment :=
  assignFrom a {} occurrences

end Key.Assigner
end Phrasebook
