import Phrasebook.Character.Ranges
import Phrasebook.Character.Word

/-!
Classes of characters. White space are the characters with the White_Space property; trimming
removes these and no others, so a no-break space goes and a byte order mark stays. Words are what
patterns see as words: runs of word characters. Plain identifiers are of ASCII letters, digits, `_`
and `$`, not beginning with a digit: narrower than what the script language accepts, and safe to
write without quotes anywhere in it.
-/

namespace Phrasebook.Text

def spaceRanges : Character.Ranges := [
  (0x9, 0xd), (0x20, 0x20), (0x85, 0x85), (0xa0, 0xa0), (0x1680, 0x1680), (0x2000, 0x200a),
  (0x2028, 0x2029), (0x202f, 0x202f), (0x205f, 0x205f), (0x3000, 0x3000)]

def isSpace (c : Char) : Bool := spaceRanges.contains c

def trimStart (cs : List Char) : List Char := cs.dropWhile isSpace

def trimEnd (cs : List Char) : List Char := (cs.reverse.dropWhile isSpace).reverse

def trim (cs : List Char) : List Char := trimEnd (trimStart cs)

def trimmed (text : String) : String := String.ofList (trim text.toList)

def isWord (c : Char) : Bool :=
  if c.toNat < 128 then c.isAlphanum || c == '_' else Character.word.contains c

/-- A word begins or ends between two characters, or at an end of the text. -/
def isWordEdge (before after : Option Char) : Bool := before.any isWord != after.any isWord

def isIdentifierStart (c : Char) : Bool := c.isAlpha || c == '_' || c == '$'

def isIdentifierPart (c : Char) : Bool := c.isAlphanum || c == '_' || c == '$'

def isIdentifierChars : List Char → Bool
  | [] => false
  | c :: cs => isIdentifierStart c && cs.all isIdentifierPart

def isIdentifier (text : String) : Bool := isIdentifierChars text.toList

example : isIdentifier "$index" = true := by decide
example : isIdentifier "2item" = false := by decide

end Phrasebook.Text
