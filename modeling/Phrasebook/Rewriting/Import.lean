import Phrasebook.Project.Path
import Phrasebook.Text.Match

/-!
The import that a module needs for its translation calls.
-/

namespace Phrasebook.Rewriting

open Text Matcher

/-- An import of a name, by itself or for a whole module. -/
def importPattern (name : List Char) : Matcher :=
  let bound := literal name (wordEdge done)
  literal "import".toList <| someSpaces <|
    either (literal ['*'] (someSpaces (literal "as".toList (someSpaces bound)))) bound

/-- A declaration of a name with a value. -/
def declarationPattern (name : List Char) : Matcher :=
  wordEdge <| anyOf ["const", "let", "var"] <| someSpaces <| literal name <| spaces <|
    literal ['='] done

/-- Whether a source seems to bind a name already. -/
def bindsName (content : List Char) (name : String) : Bool :=
  (anywhere (either (importPattern name.toList) (declarationPattern name.toList))).matchesAt content

/-- What a file imports: the configured path or else the translation module, as it is reached from
the directory of the file. -/
def importSpecifier (importPath : Option String) (translationModule file : Path) : String :=
  match importPath with
  | some path => path
  | none =>
    let target := translationModule.withoutExtension
    let relative := ((Path.reachedFrom? (file.parent?.getD ⟨""⟩) target).getD target).spelled
    if "../".toList.isPrefixOf relative.toList ||
      "./".toList.isPrefixOf relative.toList then relative
    else "./" ++ relative

def importStatement (name specifier : String) : List Char :=
  ("import " ++ name ++ " from '" ++ specifier ++ "';\n").toList

/-- Puts an import in front of a source, behind a first line that begins with `#!`. -/
def insertImport (content : List Char) (name specifier : String) : List Char :=
  let statement := importStatement name specifier
  match content with
  | '#' :: '!' :: _ =>
    let line := content.takeWhile (· != '\n')
    line ++ '\n' :: statement ++ (content.drop (line.length + 1))
  | _ => statement ++ content

end Phrasebook.Rewriting
