import Phrasebook.Character.Ranges
import Phrasebook.Text.Span

/-!
A writing system: the characters of one value of the Script property, with its full name and its
four-letter code; and its text inside other text.
-/

namespace Phrasebook

structure WritingSystem where
  name : String
  code : String
  ranges : Character.Ranges

/-- Whether the character belongs to the writing system (its own script, not the ones it extends
to). -/
def WritingSystem.has (w : WritingSystem) (c : Char) : Bool :=
  w.ranges.contains c

end Phrasebook

namespace Phrasebook.WritingSystem

/-- Whether at least one character belongs to the writing system. -/
def occursIn (w : WritingSystem) (text : String) : Bool := text.toList.any w.has

/-- Runs from a position on; `begun` is where the current run began. -/
def runsFrom (w : WritingSystem) (begun : Option Nat) : List Char → Nat → List Span
  | [], p =>
    match begun with
    | some start => [⟨start, p⟩]
    | none => []
  | c :: cs, p =>
    match w.has c, begun with
    | true, none => runsFrom w (some p) cs (p + c.utf8Size)
    | false, some start => ⟨start, p⟩ :: runsFrom w none cs (p + c.utf8Size)
    | _, _ => runsFrom w begun cs (p + c.utf8Size)

/-- The longest runs of characters of the writing system. -/
def runs (w : WritingSystem) (cs : List Char) : List Span := runsFrom w none cs 0

end Phrasebook.WritingSystem
