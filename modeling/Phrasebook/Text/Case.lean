import Phrasebook.Character.Case
import Phrasebook.Character.Cased

/-!
Case of whole texts. Capitalizing looks at the first character alone; lower-casing a text also knows
that a capital sigma at the end of a word becomes a final sigma.
-/

namespace Phrasebook.Text

open Character

def capitalize (text : String) : String :=
  match text.toList with
  | [] => ""
  | c :: cs => String.ofList (upper c ++ cs)

def decapitalize (text : String) : String :=
  match text.toList with
  | [] => ""
  | c :: cs => String.ofList (lower c ++ cs)

/-- A cased character comes first, characters that case rules look through aside. -/
private def startsCased (cs : List Char) : Bool :=
  match cs.dropWhile caseIgnorable.contains with
  | [] => false
  | c :: _ => cased.contains c

def lowerFrom (before : List Char) : List Char → List Char
  | [] => []
  | c :: cs =>
    (if c = 'Σ' then [if startsCased before && !startsCased cs then 'ς' else 'σ'] else lower c)
      ++ lowerFrom (c :: before) cs

def lowercase (text : String) : String := String.ofList (lowerFrom [] text.toList)

/-- Lower-cases the letters `A` to `Z` and no others. -/
def lowercaseAscii (text : String) : String := text.map Char.toLower

def equalsIgnoringAsciiCase (a b : String) : Bool := lowercaseAscii a == lowercaseAscii b

end Phrasebook.Text
