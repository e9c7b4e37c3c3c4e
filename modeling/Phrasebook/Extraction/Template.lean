import Phrasebook.Component.Split
import Phrasebook.Extraction.Settings
import Phrasebook.Markup.Attribute
import Phrasebook.Markup.Text
import Phrasebook.Occurrence.Binding
import Phrasebook.Text.Lines

/-!
The scan of a component's markup. Texts between tags are searched as a whole, by their expressions,
or by runs of the writing system; attributes are searched apart and win where both find something.
-/

namespace Phrasebook

open Markup

namespace TemplateScan

variable (settings : Settings) (block : Block) (file : String)

/-- The line of a position in the block. -/
def lineOf (position : Nat) : Nat :=
  block.startLine + (Text.lineAt? block.content position).getD 1 - 1

/-- A candidate without placeholders at a span of the block. -/
def plain (span : Span) (site : Site) (text raw : List Char) : Candidate where
  region := .template
  line := lineOf block span.start
  site := site
  span := span.shift block.offset
  kind := .plain
  text := String.ofList text
  raw := String.ofList raw
  captured := []

def scanAttributes (source : List Char) : List Candidate :=
  (attributes settings.attributes source).filterMap fun a =>
    if settings.writing.occursIn (String.ofList a.value) then
      let raw := (Text.slice? block.content a.span).getD []
      some (plain block a.span (.attribute a.name) a.value raw)
    else none

/-- Whether an attribute that would be found is cut inside a character. This takes a name that
begins with a blank, which may then lie inside a comment. -/
def cutsCharacter : Bool :=
  (attributes settings.attributes (blankComments block.content)).any fun a =>
    settings.writing.occursIn (String.ofList a.value) && (Text.slice? block.content a.span).isNone

/-- A candidate for every run of the writing system in a piece. -/
def scanRuns (piece : Piece) : List Candidate :=
  (settings.writing.runs piece.chars).map fun run =>
    let raw := (Text.slice? piece.chars run).getD []
    plain block (run.shift piece.start) .run raw raw

/-- The quoted texts in an expression. -/
def scanQuoted (start : Nat) (chars : List Char) : List Candidate :=
  (quoted chars).filterMap fun piece =>
    if settings.writing.occursIn (String.ofList piece.chars) then
      let raw := (Text.slice? chars ⟨piece.start, piece.span.stop + 2⟩).getD []
      some (plain block ⟨start + piece.start, start + piece.span.stop + 2⟩ .ternaryBranch
        piece.chars raw)
    else none

/-- The runs around the expressions of a text, and the quoted texts inside them. -/
def scanChoices (piece : Piece) : Nat → List Interpolation → List Candidate
  | last, [] =>
    scanRuns settings block
      ⟨piece.start + last, (Text.slice? piece.chars ⟨last, Text.byteLength piece.chars⟩).getD []⟩
  | last, i :: rest =>
    scanRuns settings block
        ⟨piece.start + last, (Text.slice? piece.chars ⟨last, i.span.start⟩).getD []⟩
      ++ scanQuoted settings block (piece.start + i.span.start)
        ((Text.slice? piece.chars i.span).getD [])
      ++ scanChoices piece i.span.stop rest

/-- A text whose expressions are replaced by placeholders. -/
def phraseOf (chars : List Char) : Nat → List Interpolation → List Binding → List Char
  | last, i :: is, b :: bs =>
    (Text.slice? chars ⟨last, i.span.start⟩).getD [] ++ '\x7b' :: b.label.toList ++ '\x7d' ::
      phraseOf chars i.span.stop is bs
  | last, _, _ => (Text.slice? chars ⟨last, Text.byteLength chars⟩).getD []

def isChoice (i : Interpolation) : Bool := i.body.contains '?' && i.body.contains ':'

def scanInterpolated (piece : Piece) : RegionScan :=
  let found := interpolations piece.chars
  if found.any isChoice then { candidates := scanChoices settings block piece 0 found }
  else
    let expressions := found.map fun i => Text.trim i.body
    if expressions.all isSimplePath then
      let captured := Binding.bind (expressions.map String.ofList)
      { candidates := [{
          region := .template
          line := lineOf block piece.start
          site := .text
          span := piece.span.shift block.offset
          kind := .interpolated
          text := String.ofList (phraseOf piece.chars 0 found captured)
          raw := String.ofList piece.chars
          captured := captured }] }
    else
      { skips :=
        [⟨file, lineOf block piece.start, String.ofList piece.chars, .complexInterpolation⟩] }

/-- The text of a piece without the blanks around it. -/
def trimPiece (piece : Piece) : Piece :=
  let front := piece.chars.takeWhile Text.isSpace
  ⟨piece.start + Text.byteLength front, Text.trim piece.chars⟩

def scanText (piece : Piece) : RegionScan :=
  let piece := trimPiece piece
  if Text.contains ['\x7b', '\x7b'] piece.chars && Text.contains ['\x7d', '\x7d'] piece.chars then
    scanInterpolated settings block file piece
  else if piece.chars.contains '>' then { candidates := scanRuns settings block piece }
  else { candidates := [plain block piece.span .text piece.chars piece.chars] }

def scanTexts (source : List Char) : RegionScan :=
  ((textNodes source).filter fun piece =>
    settings.writing.occursIn (String.ofList piece.chars)).foldr
    (fun piece rest => (scanText settings block file piece).append rest) {}

/-- The scan of a component's markup. -/
def ofBlock : RegionScan :=
  let source := blankComments block.content
  let found := scanAttributes settings block source
  let texts := scanTexts settings block file source
  let free := texts.candidates.filter fun c => !found.any fun a => c.span.overlaps a.span
  ⟨free ++ found, texts.skips⟩

end TemplateScan
end Phrasebook
