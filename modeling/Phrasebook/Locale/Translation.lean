import Phrasebook.Locale.Template
import Phrasebook.Text.Search

/-!
Translation of a resource tree by a template, and the report of what is missing.
-/

namespace Phrasebook

/-- Why a phrase has no translation: its line is blank, or it has no line. -/
inductive TranslationGap
  | empty
  | missing
deriving DecidableEq, Repr

def TranslationGap.text : TranslationGap → String
  | empty => "empty"
  | missing => "missing"

structure MissingTranslation where
  key : String
  phrase : String
  gap : TranslationGap
deriving DecidableEq, Repr

namespace Template

def gap? (t : Template) (phrase : String) : Option TranslationGap :=
  match t.lookup phrase with
  | .translated _ => none
  | .empty => some .empty
  | .missing => some .missing

/-- The translation of a phrase, blank if there is none. -/
def translationOf (t : Template) (phrase : String) : String :=
  match t.lookup phrase with
  | .translated text => text
  | _ => ""

def translate (t : Template) (tree : ResourceTree) : ResourceTree :=
  tree.mapTexts fun _ phrase => t.translationOf phrase

/-- The texts of a tree that have no translation. -/
def missing (t : Template) (tree : ResourceTree) : List MissingTranslation :=
  tree.texts.filterMap fun (key, phrase) => (t.gap? phrase).map fun gap => ⟨key, phrase, gap⟩

/-- Notes a text without a translation behind those noted before, and leaves a blank for it. -/
def note (m : MissingTranslation) : StateM (List MissingTranslation) String :=
  modifyGet fun noted => ("", noted ++ [m])

def translateText (t : Template) (key phrase : String) : StateM (List MissingTranslation) String :=
  match t.lookup phrase with
  | .translated text => return text
  | .empty => note ⟨key, phrase, .empty⟩
  | .missing => note ⟨key, phrase, .missing⟩

/-- The translation of a tree and the texts without one, in one walk. -/
def translateTree (t : Template) (tree : ResourceTree) : ResourceTree × List MissingTranslation :=
  (tree.mapTextsM t.translateText).run []

end Template

namespace MissingTranslation

/-- The module of the key. -/
def module (m : MissingTranslation) : String := String.ofList (m.key.toList.takeWhile (· != '.'))

def line (m : MissingTranslation) : String :=
  "- \x60" ++ m.key ++ "\x60: " ++ Text.replaceChar '\n' "\\n" m.phrase ++ " (" ++
    m.gap.text ++ ")\n"

/-- Lines with a heading wherever another module begins. -/
def sections (current : Option String) : List MissingTranslation → String
  | [] => ""
  | m :: rest =>
    (if current == some m.module then "" else "## " ++ m.module ++ "\n\n") ++ m.line
      ++ sections (some m.module) rest

/-- The report for a language. -/
def report (language : String) (missing : List MissingTranslation) : String :=
  "# Missing translations: " ++ language ++ "\n\nTotal: " ++ toString missing.length ++ "\n\n"
    ++ sections none missing

end MissingTranslation
end Phrasebook
