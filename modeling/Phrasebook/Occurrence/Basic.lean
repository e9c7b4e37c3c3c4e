import Phrasebook.Text.Span

/-!
Occurrences: pieces of embedded text with the place where they were found.
-/

namespace Phrasebook

/-- The part of a file that an occurrence is in: the markup or the script of a component, or a file
that is a script. -/
inductive Region
  | template
  | script
  | file
deriving DecidableEq, Repr

def Region.text : Region → String
  | template => "template"
  | script => "script"
  | file => "file"

/-- The construct that an occurrence was taken from, which decides how it is replaced. -/
inductive Site
  /-- A whole text between two tags. -/
  | text
  /-- A run of characters in a text that holds other things, too. -/
  | run
  /-- A quoted branch of a choice inside braces. -/
  | ternaryBranch
  | attribute (name : String)
  | literal
  | templateLiteral
deriving DecidableEq, Repr

/-- An interpolated occurrence has placeholders for expressions. -/
inductive OccurrenceKind
  | plain
  | interpolated
deriving DecidableEq, Repr

/-- An expression of the source and the placeholder that stands for it. -/
structure Binding where
  label : String
  expression : String
deriving DecidableEq, Repr

/-- What a scan of a region finds. -/
structure Candidate where
  region : Region
  line : Nat
  site : Site
  /-- The bytes of the file that a replacement takes out. -/
  span : Span
  kind : OccurrenceKind
  /-- The phrase, with placeholders in braces. -/
  text : String
  /-- The source at the span. -/
  raw : String
  captured : List Binding
deriving DecidableEq, Repr

structure Occurrence where
  locationKey : String
  file : String
  region : Region
  line : Nat
  site : Site
  /-- How many occurrences of the same construct come before. -/
  ordinal : Nat
  span : Span
  kind : OccurrenceKind
  text : String
  raw : String
  captured : List Binding
deriving DecidableEq, Repr

/-- Whether two occurrences of a file are the same construct, wherever it stands. -/
def Occurrence.sameSite (a b : Occurrence) : Bool :=
  a.region == b.region && a.site == b.site && a.raw == b.raw && a.ordinal == b.ordinal

/-- Why embedded text was left alone. -/
inductive SkipReason
  | comment
  | diagnosticCall
  | moduleSpecifier
  | routeMetadata
  | complexInterpolation
deriving DecidableEq, Repr

def SkipReason.text : SkipReason → String
  | comment => "comment"
  | diagnosticCall => "diagnostic call"
  | moduleSpecifier => "module specifier"
  | routeMetadata => "route metadata"
  | complexInterpolation => "complex interpolation"

structure Skip where
  file : String
  line : Nat
  text : String
  reason : SkipReason
deriving DecidableEq, Repr

end Phrasebook
