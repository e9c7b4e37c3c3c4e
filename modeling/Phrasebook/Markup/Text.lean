import Phrasebook.Text.Space
import Phrasebook.Text.Search
import Phrasebook.Text.Span

/-!
Comments and text of markup. A comment goes from `<!--` to the next `-->` or to the end; blanking
puts a space for each byte of it and keeps line feeds, so positions stay what they are. Text is what
stands between a `>` and the next `<`, and inside it the expressions in double braces and the quoted
texts of these. Pieces come with the byte position of their first character.
-/

namespace Phrasebook.Markup

def spaces (n : Nat) : List Char := List.replicate n ' '

/-- A blank of the same length in bytes; a line feed stays. -/
def blank (c : Char) : List Char := if c = '\n' then ['\n'] else spaces c.utf8Size

def blankFrom (inComment : Bool) : List Char → List Char
  | [] => []
  | '<' :: '!' :: '-' :: '-' :: cs =>
    if inComment then spaces 1 ++ blankFrom true ('!' :: '-' :: '-' :: cs)
    else spaces 4 ++ blankFrom true cs
  | '-' :: '-' :: '>' :: cs =>
    if inComment then spaces 3 ++ blankFrom false cs else '-' :: blankFrom false ('-' :: '>' :: cs)
  | c :: cs => (if inComment then blank c else [c]) ++ blankFrom inComment cs

def blankComments (cs : List Char) : List Char := blankFrom false cs

example : blankComments "a<!--\n-->b".toList = "a    \n   b".toList := by decide

/-- A piece of a text. -/
structure Piece where
  start : Nat
  chars : List Char
deriving DecidableEq, Repr

def Piece.span (piece : Piece) : Span := ⟨piece.start, piece.start + Text.byteLength piece.chars⟩

/-- Texts from a position on; the first argument is the text that has begun, in reverse. -/
def textNodesFrom : Option (Nat × List Char) → List Char → Nat → List Piece
  | _, [], _ => []
  | none, '>' :: cs, p => textNodesFrom (some (p + 1, [])) cs (p + 1)
  | none, c :: cs, p => textNodesFrom none cs (p + c.utf8Size)
  | some (start, chars), '<' :: cs, p =>
    ⟨start, chars.reverse⟩ :: textNodesFrom none cs (p + 1)
  | some (start, chars), c :: cs, p =>
    textNodesFrom (some (start, c :: chars)) cs (p + c.utf8Size)

def textNodes (cs : List Char) : List Piece := textNodesFrom none cs 0

/-- An expression in double braces. -/
structure Interpolation where
  /-- The braces included. -/
  span : Span
  body : List Char
deriving DecidableEq, Repr

def interpolationsFrom : Option (Nat × List Char) → List Char → Nat → List Interpolation
  | none, '\x7b' :: '\x7b' :: cs, p => interpolationsFrom (some (p, [])) cs (p + 2)
  | some (start, body), '\x7d' :: '\x7d' :: cs, p =>
    ⟨⟨start, p + 2⟩, body.reverse⟩ :: interpolationsFrom none cs (p + 2)
  | none, c :: cs, p => interpolationsFrom none cs (p + c.utf8Size)
  | some (start, body), c :: cs, p =>
    interpolationsFrom (some (start, c :: body)) cs (p + c.utf8Size)
  | _, [], _ => []

/-- The expressions in a text; the first pair of closing braces ends one. -/
def interpolations (cs : List Char) : List Interpolation := interpolationsFrom none cs 0

/-- Whether a quote that has been opened is closed on its line. -/
def closesQuote (quote : Char) (cs : List Char) : Bool :=
  match cs.dropWhile fun c => c != quote && c != '\n' with
  | c :: _ => c == quote
  | [] => false

def quotedFrom : Option (Char × Nat × List Char) → List Char → Nat → List Piece
  | _, [], _ => []
  | none, c :: cs, p =>
    if (c == '\'' || c == '"') && closesQuote c cs then quotedFrom (some (c, p, [])) cs (p + 1)
    else quotedFrom none cs (p + c.utf8Size)
  | some (quote, start, inner), c :: cs, p =>
    if c == quote then ⟨start, inner.reverse⟩ :: quotedFrom none cs (p + 1)
    else quotedFrom (some (quote, start, c :: inner)) cs (p + c.utf8Size)

/-- The texts in quotes: what is between the quotes, at the position of the opening one. -/
def quoted (cs : List Char) : List Piece := quotedFrom none cs 0

/-- Whether an expression is an identifier or identifiers joined by dots. -/
def isSimplePath (cs : List Char) : Bool :=
  (Text.splitOnChar '.' cs).all Text.isIdentifierChars

end Phrasebook.Markup
