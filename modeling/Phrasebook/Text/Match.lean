import Phrasebook.Text.Space

/-!
Matchers for patterns of code. A matcher looks at the character before a place and at the text
behind it; it is built from its end, each step trying all the ways in which what follows may match.
-/

namespace Phrasebook.Text

abbrev Matcher := Option Char → List Char → Bool

namespace Matcher

/-- The empty pattern. -/
def done : Matcher := fun _ _ => true

def atEnd : Matcher := fun _ cs => cs.isEmpty

/-- A fixed text. -/
def literal (pattern : List Char) (next : Matcher) : Matcher := fun before cs =>
  pattern.isPrefixOf cs &&
    next (pattern.getLast?.orElse fun _ => before) (cs.drop pattern.length)

/-- One of several fixed texts. -/
def anyOf (patterns : List String) (next : Matcher) : Matcher := fun before cs =>
  patterns.any fun pattern => literal pattern.toList next before cs

/-- A character of a kind. -/
def char (kind : Char → Bool) (next : Matcher) : Matcher
  | _, [] => false
  | _, c :: cs => kind c && next (some c) cs

/-- Any number of characters of a kind. -/
def many (kind : Char → Bool) (next : Matcher) : Matcher
  | before, [] => next before []
  | before, c :: cs => next before (c :: cs) || (kind c && many kind next (some c) cs)

def spaces (next : Matcher) : Matcher := many isSpace next

/-- At least one space. -/
def someSpaces (next : Matcher) : Matcher := char isSpace (spaces next)

def wordEdge (next : Matcher) : Matcher := fun before cs =>
  isWordEdge before cs.head? && next before cs

def either (a b : Matcher) : Matcher := fun before cs => a before cs || b before cs

/-- Tries a pattern at every place. -/
def anywhere (pattern : Matcher) : Matcher
  | before, [] => pattern before []
  | before, c :: cs => pattern before (c :: cs) || anywhere pattern (some c) cs

/-- Whether a pattern matches from the start of a text on. -/
def matchesAt (pattern : Matcher) (cs : List Char) : Bool := pattern none cs

end Matcher
end Phrasebook.Text
