import Phrasebook.Extraction.Literal
import Phrasebook.Occurrence.Binding

/-!
The scan of a script: the literals found in it, as candidates and skips with their source.
-/

namespace Phrasebook

/-- Where a script stands in its file. -/
structure Placement where
  region : Region
  offset : Nat
  startLine : Nat
deriving DecidableEq, Repr

def Placement.wholeFile : Placement := ⟨.file, 0, 1⟩

inductive ExtractionError
  /-- The script cannot be read. -/
  | unreadable (error : Script.SyntaxError)
  /-- A span of the script does not lie between characters of the source. -/
  | misaligned
deriving DecidableEq, Repr

namespace ScriptScan

/-- The source at a span. -/
def sourceAt (source : List Char) (span : Span) : Except ExtractionError String :=
  match Text.slice? source span with
  | some cs => .ok (String.ofList cs)
  | none => .error .misaligned

/-- Chunks with placeholders between them. -/
def phraseOf : List String → List Binding → String
  | chunk :: chunks, b :: bindings =>
    chunk ++ "\x7b" ++ b.label ++ "\x7d" ++ phraseOf chunks bindings
  | chunks, _ => String.join chunks

def candidateOf (source : List Char) (place : Placement) (line : Nat) (finding : LiteralFinding) :
    Except ExtractionError Candidate := do
  let raw ← sourceAt source finding.span
  let expressions ← finding.expressions.mapM fun tree => sourceAt source tree.span
  let captured := Binding.bind expressions
  return {
    region := place.region
    line := line
    site := finding.site
    span := finding.span.shift place.offset
    kind := if finding.expressions.isEmpty then .plain else .interpolated
    text := phraseOf finding.chunks captured
    raw := raw
    captured := captured }

/-- What is recorded of a literal that is left alone: the text of a string, or the source of a
template literal. -/
def skippedText (source : List Char) (finding : LiteralFinding) : Except ExtractionError String :=
  match finding.site with
  | .templateLiteral => sourceAt source finding.span
  | _ => .ok (String.join finding.chunks)

def scanFinding (source : List Char) (place : Placement) (file : String) (script : Script.Document)
    (finding : LiteralFinding) : Except ExtractionError RegionScan := do
  let line := place.startLine + script.lineAt finding.span.start - 1
  match finding.skipped with
  | some reason =>
    let text ← skippedText source finding
    return { skips := [⟨file, line, text, reason⟩] }
  | none =>
    let candidate ← candidateOf source place line finding
    return { candidates := [candidate] }

def scanFindings (source : List Char) (place : Placement) (file : String)
    (script : Script.Document) : List LiteralFinding → Except ExtractionError RegionScan
  | [] => .ok {}
  | finding :: findings => do
    let scan ← scanFinding source place file script finding
    let rest ← scanFindings source place file script findings
    return scan.append rest

/-- The scan of a script that is the source text of a file or of a region. -/
def ofSource (settings : Settings) (dialect : Script.Dialect) (source : List Char)
    (place : Placement) (file : String) : Except ExtractionError RegionScan := do
  match Script.parse dialect source with
  | .error error => throw (.unreadable error)
  | .ok script => scanFindings source place file script (LiteralFinding.ofScript settings script)

end ScriptScan
end Phrasebook
