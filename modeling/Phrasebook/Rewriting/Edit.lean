import Phrasebook.Text.Span

/-!
Edits of a text. Of edits that overlap, the one that starts first is made.
-/

namespace Phrasebook.Rewriting

structure Edit where
  span : Span
  text : String
  /-- A number that tells edits apart. -/
  id : Nat
deriving DecidableEq, Repr

/-- Whether an edit takes out whole characters of a text. -/
def Edit.fits (content : List Char) (edit : Edit) : Bool :=
  decide (edit.span.start ≤ edit.span.stop)
    && Text.isBoundary content edit.span.start && Text.isBoundary content edit.span.stop

/-- Parts edits, given in order, into those to make and the numbers of the others. An edit must not
start before the end of the one made last. -/
def selectEdits (content : List Char) : Option Nat → List Edit → List Edit × List Nat
  | _, [] => ([], [])
  | last, edit :: edits =>
    if edit.fits content && last.all (· ≤ edit.span.start) then
      let (made, rejected) := selectEdits content (some edit.span.stop) edits
      (edit :: made, rejected)
    else
      let (made, rejected) := selectEdits content last edits
      (made, edit.id :: rejected)

/-- Makes edits that are in order and apart. The text begins at the given position. -/
def splice (content : List Char) (position : Nat) : List Edit → List Char
  | [] => content
  | edit :: edits =>
    match Text.splitBytes? (edit.span.start - position) content with
    | none => content
    | some (kept, rest) =>
      match Text.splitBytes? (edit.span.stop - edit.span.start) rest with
      | none => content
      | some (_, after) => kept ++ edit.text.toList ++ splice after edit.span.stop edits

/-- Makes the edits that can be made, and tells which could not. -/
def applyEdits (content : List Char) (edits : List Edit) : List Char × List Nat :=
  let (made, rejected) := selectEdits content none (edits.mergeSort fun a b => a.span.before b.span)
  (splice content 0 made, rejected)

end Phrasebook.Rewriting
