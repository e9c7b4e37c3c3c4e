import Phrasebook.Text.Span

/-!
Lines of text. Only a line feed ends a line; a carriage return right before it belongs to the
ending.
-/

namespace Phrasebook.Text

/-- Line feeds in the text. -/
def lineFeeds (cs : List Char) : Nat := cs.count '\n'

/-- The lines without their endings; nothing follows a final line feed. -/
def lines (cs : List Char) : List (List Char) := go [] cs
where
  go (line : List Char) : List Char → List (List Char)
    | [] => if line.isEmpty then [] else [line.reverse]
    | '\n' :: cs =>
      (match line with
        | '\r' :: line => line.reverse
        | line => line.reverse) :: go [] cs
    | c :: cs => go (c :: line) cs

/-- The line of a byte position, counted from 1; a position behind the end counts as the end. There
is no answer inside a character. -/
def lineAt? (cs : List Char) (position : Nat) : Option Nat :=
  if byteLength cs ≤ position then some (lineFeeds cs + 1)
  else (splitBytes? position cs).map fun (front, _) => lineFeeds front + 1

example : lines "a\r\nb\n\nc".toList = ["a".toList, "b".toList, [], "c".toList] := by decide
example : lineAt? "\n\n".toList 1 = some 2 := by decide

end Phrasebook.Text
