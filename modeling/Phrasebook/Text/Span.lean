/-!
Byte positions in UTF-8 text. A position is good only between two characters: every cut below is
partial and fails inside a character or behind the end.
-/

namespace Phrasebook

/-- A half-open range of byte positions. -/
structure Span where
  start : Nat
  stop : Nat
deriving DecidableEq, Repr, Inhabited

namespace Span

def shift (offset : Nat) (s : Span) : Span := ⟨offset + s.start, offset + s.stop⟩

/-- Order of appearance: by start, then by end. -/
def before (a b : Span) : Bool :=
  a.start < b.start || (a.start == b.start && a.stop ≤ b.stop)

def overlaps (a b : Span) : Bool := a.start < b.stop && b.start < a.stop

def covers (a b : Span) : Bool := a.start ≤ b.start && b.stop ≤ a.stop

end Span

namespace Text

/-- Length in bytes. -/
def byteLength : List Char → Nat
  | [] => 0
  | c :: cs => c.utf8Size + byteLength cs

/-- The first `n` bytes and the rest, if a character ends there. -/
def splitBytes? : Nat → List Char → Option (List Char × List Char)
  | 0, cs => some ([], cs)
  | _ + 1, [] => none
  | n + 1, c :: cs =>
    if c.utf8Size ≤ n + 1 then
      (splitBytes? (n + 1 - c.utf8Size) cs).map fun (front, back) => (c :: front, back)
    else none

def slice? (cs : List Char) (span : Span) : Option (List Char) :=
  if span.start ≤ span.stop then do
    let (_, back) ← splitBytes? span.start cs
    let (front, _) ← splitBytes? (span.stop - span.start) back
    pure front
  else none

def isBoundary (cs : List Char) (position : Nat) : Bool := (splitBytes? position cs).isSome

theorem byteLength_append (a b : List Char) :
    byteLength (a ++ b) = byteLength a + byteLength b := by
  induction a with
  | nil => simp [byteLength]
  | cons c a ih => simp [byteLength, ih, Nat.add_assoc]

theorem splitBytes?_eq_append {n : Nat} {cs front back : List Char}
    (h : splitBytes? n cs = some (front, back)) : cs = front ++ back ∧ byteLength front = n := by
  induction cs generalizing n front back with
  | nil =>
    cases n with
    | zero => simp [splitBytes?] at h; simp [h, byteLength]
    | succ n => simp [splitBytes?] at h
  | cons c cs ih =>
    cases n with
    | zero => simp [splitBytes?] at h; obtain ⟨rfl, rfl⟩ := h; simp [byteLength]
    | succ n =>
      simp only [splitBytes?] at h
      split at h
      · rename_i size
        rcases Option.map_eq_some_iff.1 h with ⟨⟨f, b⟩, hf, heq⟩
        simp only [Prod.mk.injEq] at heq
        obtain ⟨rfl, rfl⟩ := heq
        obtain ⟨happ, hlen⟩ := ih hf
        exact ⟨by simp [happ], by simp only [byteLength, hlen]; omega⟩
      · simp at h

end Text
end Phrasebook
