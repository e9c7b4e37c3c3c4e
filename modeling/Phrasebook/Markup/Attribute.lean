import Phrasebook.Markup.Text
import Phrasebook.Text.Space

/-!
Attributes in markup: a name behind a blank or at the very beginning, an equals sign with or without
blanks around it, and a quoted value on one line.
-/

namespace Phrasebook.Markup

structure Attribute where
  name : String
  value : List Char
  /-- From the name to the closing quote. -/
  span : Span
deriving DecidableEq, Repr

/-- A quoted value, and how many characters it takes with its quotes. -/
def quotedValue? : List Char → Option (List Char)
  | '"' :: cs => if closesQuote '"' cs then some (cs.takeWhile (· != '"')) else none
  | '\'' :: cs => if closesQuote '\'' cs then some (cs.takeWhile (· != '\'')) else none
  | _ => none

/-- The value behind a name, and how many characters follow the name up to its end. -/
def valueBehind? (cs : List Char) : Option (List Char × Nat) :=
  let before := cs.takeWhile Text.isSpace
  match cs.drop before.length with
  | '=' :: cs =>
    let after := cs.takeWhile Text.isSpace
    (quotedValue? (cs.drop after.length)).map fun value =>
      (value, before.length + 1 + after.length + value.length + 2)
  | _ => none

/-- The first of the names that an attribute begins with here, its value, and how many characters it
takes. -/
def attributeHere? (names : List String) (cs : List Char) : Option (String × List Char × Nat) :=
  names.findSome? fun name =>
    let letters := name.toList
    if letters.isPrefixOf cs then
      (valueBehind? (cs.drop letters.length)).map fun (value, n) =>
        (name, value, letters.length + n)
    else none

def attributeOf (cs : List Char) (start : Nat) (found : String × List Char × Nat) : Attribute :=
  let (name, value, n) := found
  ⟨name, value, ⟨start, start + Text.byteLength (cs.take n)⟩⟩

/-- Attributes behind blanks; the first number counts characters that still belong to the last one.
-/
def attributesFrom (names : List String) : Nat → List Char → Nat → List Attribute
  | _, [], _ => []
  | skip + 1, c :: cs, p => attributesFrom names skip cs (p + c.utf8Size)
  | 0, c :: cs, p =>
    match if Text.isSpace c then attributeHere? names cs else none with
    | some found => attributeOf cs (p + c.utf8Size) found
        :: attributesFrom names found.2.2 cs (p + c.utf8Size)
    | none => attributesFrom names 0 cs (p + c.utf8Size)

/-- All attributes with one of the names. -/
def attributes (names : List String) (cs : List Char) : List Attribute :=
  match attributeHere? names cs with
  | some found => attributeOf cs 0 found :: attributesFrom names found.2.2 cs 0
  | none => attributesFrom names 0 cs 0

end Phrasebook.Markup
