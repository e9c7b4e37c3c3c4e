import Phrasebook.Character.Width

/-!
Columns that a text takes in a display of fixed width. Each character has a width of its own, but a
picture takes two columns together with the marks behind it and with the pictures joined to it.
-/

namespace Phrasebook.Text

open Character

/-- What is known of the characters behind a character. -/
inductive Follower
  | plain
  | picture
  | skinTone
  /-- Two pictures are joined here. -/
  | joiner
  /-- The character before it is a picture, which may be joined to another. -/
  | pictureSelector (joined : Bool)
  | textSelector
deriving DecidableEq, Repr

/-- The width of a character that stands alone. Control characters take a column. -/
def characterWidth (c : Char) : Nat :=
  if c.toNat ≤ 0xa0 then 1
  else if zeroWidth.contains c then 0
  else if doubleWidth.contains c then 2
  else 1

def isSkinTone (c : Char) : Bool := 0x1f3fb ≤ c.toNat && c.toNat ≤ 0x1f3ff

/-- Characters of East Asian writing inside a frame, which are wide in any case. -/
def isEnclosedIdeograph (c : Char) : Bool := 0x1f200 ≤ c.toNat && c.toNat ≤ 0x1f2ff

/-- The width of a character by itself, and what it is for the character before it. -/
def plainWidth (c : Char) : Nat × Follower :=
  (characterWidth c,
    if isSkinTone c then .skinTone else if pictures.contains c then .picture else .plain)

/-- The width that a character adds in front of what follows it. -/
def widthBefore (next : Follower) (c : Char) : Nat × Follower :=
  match c with
  | '\ufe0f' => (0, .pictureSelector (next == .joiner))
  | '\ufe0e' => (0, .textSelector)
  | '\u200d' => (0, if next == .picture || next == .skinTone then .joiner else .plain)
  | c =>
    match next with
    | .pictureSelector joined =>
      if pictures.contains c || selectablePictures.contains c then
        (if joined then 0 else 2, .picture)
      else plainWidth c
    | .textSelector =>
      if pictures.contains c && !isEnclosedIdeograph c then (1, .plain)
      else plainWidth c
    | .skinTone => if toned.contains c then (0, .picture) else plainWidth c
    | .joiner => if pictures.contains c then (0, .picture) else plainWidth c
    | _ => plainWidth c

/-- The columns of a text, and what its first character is for one before it. -/
def measure : List Char → Nat × Follower
  | [] => (0, .plain)
  | c :: cs =>
    let (rest, next) := measure cs
    let (width, follower) := widthBefore next c
    (width + rest, follower)

def displayWidth (cs : List Char) : Nat := (measure cs).1

end Phrasebook.Text
