import Phrasebook.Resource.Leaves
import Phrasebook.Text.Table

/-!
Translation templates: phrases with their translations, filled in by hand. Translations of phrases
that are no longer in use are retained apart from the others.
-/

namespace Phrasebook

structure Template where
  /-- A translation for each phrase in use, blank until it is filled in; sorted. -/
  entries : List (String × String) := []
  /-- Translations of other phrases, sorted. -/
  retained : List (String × String) := []
deriving DecidableEq, Repr

inductive Lookup
  | translated (text : String)
  /-- The phrase is there without a translation. -/
  | empty
  | missing
deriving DecidableEq, Repr

namespace Template

/-- A blank template for the phrases of a tree. -/
def ofTree (tree : ResourceTree) : Template where
  entries := Text.sortedTable (tree.leaves.map fun (_, phrase) => (phrase, ""))

/-- Takes over one translation from an earlier template. -/
def carry (t : Template) (phrase translation : String) : Template :=
  if translation.isEmpty then t
  else if (t.entries.lookup phrase).isSome then
    { t with entries := Text.insertSorted phrase translation t.entries }
  else { t with retained := Text.insertSorted phrase translation t.retained }

/-- Takes over the translations of an earlier template. -/
def mergePrevious (t previous : Template) : Template :=
  (previous.entries ++ previous.retained).foldl
    (fun t (phrase, translation) => t.carry phrase translation) t

def lookup (t : Template) (phrase : String) : Lookup :=
  match (t.entries.lookup phrase).orElse fun _ => t.retained.lookup phrase with
  | none => .missing
  | some translation => if translation.isEmpty then .empty else .translated translation

/-- Sets the translation of a phrase in use. -/
def fill (t : Template) (phrase translation : String) : Template :=
  { t with entries := Text.insertSorted phrase translation t.entries }

def translatedCount (t : Template) : Nat :=
  t.entries.countP fun (_, translation) => !translation.isEmpty

end Template
end Phrasebook
