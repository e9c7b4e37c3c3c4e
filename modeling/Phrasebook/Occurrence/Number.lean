import Phrasebook.Occurrence.Basic

/-!
Numbering of the candidates of one file. In source order, a candidate is told from the others on its
line by a count, and from those of the same construct and text by an ordinal.
-/

namespace Phrasebook

namespace Candidate

/-- Source order. -/
def before (a b : Candidate) : Bool := a.span.before b.span

def sameLine (a b : Candidate) : Bool := a.region == b.region && a.line == b.line

def sameText (a b : Candidate) : Bool := a.region == b.region && a.site == b.site && a.raw == b.raw

end Candidate

namespace Occurrence

/-- Names a line of a region; the second and later occurrences on it also have their count. -/
def locationKeyOf (file : String) (region : Region) (line count : Nat) : String :=
  let place := s!"{file}::{region.text}::line:{line}"
  if count = 1 then place else s!"{place}#{count}"

/-- The occurrence of a candidate, given the candidates before it. -/
def ofCandidate (file : String) (earlier : List Candidate) (c : Candidate) : Occurrence where
  locationKey := locationKeyOf file c.region c.line (earlier.countP c.sameLine + 1)
  file := file
  region := c.region
  line := c.line
  site := c.site
  ordinal := earlier.countP c.sameText
  span := c.span
  kind := c.kind
  text := c.text
  raw := c.raw
  captured := c.captured

def numberFrom (file : String) (earlier : List Candidate) : List Candidate → List Occurrence
  | [] => []
  | c :: cs => ofCandidate file earlier c :: numberFrom file (c :: earlier) cs

/-- The occurrences of a file in source order. -/
def number (file : String) (candidates : List Candidate) : List Occurrence :=
  numberFrom file [] (candidates.mergeSort Candidate.before)

end Occurrence
end Phrasebook
