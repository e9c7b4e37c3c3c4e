import Phrasebook.Text.Space
import Phrasebook.Text.Span

/-!
Places in the source, each with what is still to be read and the byte position where it starts; and
what stands between two tokens: blanks, line ends and comments. A block comment that is never closed
is no comment; it swallows the rest of the source.
-/

namespace Phrasebook.Script

structure Cursor where
  rest : List Char
  position : Nat

namespace Cursor

/-- Behind the next `n` characters. -/
def drop : Nat → Cursor → Cursor
  | 0, c => c
  | _ + 1, ⟨[], p⟩ => ⟨[], p⟩
  | n + 1, ⟨c :: cs, p⟩ => drop n ⟨cs, p + c.utf8Size⟩

/-- The longest run of characters that satisfy the condition, and the place behind it. -/
def takeWhile (p : Char → Bool) : List Char → Nat → List Char × Cursor
  | [], position => ([], ⟨[], position⟩)
  | c :: cs, position =>
    if p c then
      let (run, stop) := takeWhile p cs (position + c.utf8Size)
      (c :: run, stop)
    else ([], ⟨c :: cs, position⟩)

end Cursor

/-- The characters that end a line of a script. -/
def isLineEnd (c : Char) : Bool :=
  c == '\n' || c == '\r' || c == '\u2028' || c == '\u2029'

structure Gap where
  stop : Cursor
  /-- Whether a line ends inside the gap. -/
  breaks : Bool
  /-- Spans of the comments, the last one first. -/
  comments : List Span

def isBlank (c : Char) : Bool := Text.isSpace c || c == '\ufeff'

/-- What a character inside a gap belongs to; a comment knows where it began. -/
inductive GapState
  | blank
  | line (start : Nat)
  | block (start : Nat)

/-- A line that begins with `-->` is a comment, and so is what follows `<!--` on its line. -/
def skipGap : GapState → Bool → List Span → List Char → Nat → Gap
  | .line start, breaks, comments, [], p => ⟨⟨[], p⟩, breaks, ⟨start, p⟩ :: comments⟩
  | _, breaks, comments, [], p => ⟨⟨[], p⟩, breaks, comments⟩
  | .blank, breaks, comments, '/' :: '/' :: cs, p => skipGap (.line p) breaks comments cs (p + 2)
  | .blank, breaks, comments, '/' :: '*' :: cs, p => skipGap (.block p) breaks comments cs (p + 2)
  | .blank, breaks, comments, '<' :: '!' :: '-' :: '-' :: cs, p =>
    skipGap (.line (p + 1)) breaks comments cs (p + 4)
  | .blank, true, comments, '-' :: '-' :: '>' :: cs, p =>
    skipGap (.line (p + 3)) true comments cs (p + 3)
  | .blank, breaks, comments, c :: cs, p =>
    if isBlank c then skipGap .blank (breaks || isLineEnd c) comments cs (p + c.utf8Size)
    else ⟨⟨c :: cs, p⟩, breaks, comments⟩
  | .line start, breaks, comments, c :: cs, p =>
    if isLineEnd c then skipGap .blank true (⟨start, p⟩ :: comments) cs (p + c.utf8Size)
    else skipGap (.line start) breaks comments cs (p + c.utf8Size)
  | .block start, breaks, comments, '*' :: '/' :: cs, p =>
    skipGap .blank breaks (⟨start, p + 2⟩ :: comments) cs (p + 2)
  | .block start, breaks, comments, c :: cs, p =>
    skipGap (.block start) (breaks || isLineEnd c) comments cs (p + c.utf8Size)

/-- The gap at a place; the first gap of a source counts as holding a line end. -/
def gapAt (cursor : Cursor) (first : Bool) : Gap :=
  skipGap .blank first [] cursor.rest cursor.position

end Phrasebook.Script
