import Phrasebook.Config.Check
import Phrasebook.Text.Lines
import Phrasebook.Validation.CharClass
import Phrasebook.WritingSystem.Basic

/-!
Text of the writing system that is left in a source outside translation calls.
-/

namespace Phrasebook

inductive Severity
  | error
  | warning
deriving DecidableEq, Repr

def Severity.name : Severity → String
  | error => "error"
  | warning => "warning"

structure Issue where
  line : Nat
  /-- Counted in characters from 1. -/
  column : Nat
  text : String
  /-- The text with some of what is around it. -/
  context : String
  sourceLine : String
  severity : Severity
deriving DecidableEq, Repr

def Issue.message (issue : Issue) : String := s!"untranslated text \"{issue.text}\""

namespace Validation

/-- Characters of the context of an issue. -/
def contextWidth : Nat := 40

/-- A part of a line with equal margins on both sides, and dots where the line goes on. -/
def contextOf (line : List Char) (start width : Nat) : String :=
  let margin := (contextWidth - width) / 2
  let first := start - margin
  let last := min (start + width + margin) line.length
  let shown := (line.drop first).take (last - first)
  Text.trimmed (String.ofList ((if 0 < first then "...".toList else []) ++ shown
    ++ (if last < line.length then "...".toList else [])))

/-- Lines that begin like a comment are not looked at. -/
def isCommentLine (line : List Char) : Bool :=
  let body := Text.trimStart line
  ["//", "<!--", "/*", "*"].any fun opening => opening.toList.isPrefixOf body

/-- A run of characters of the writing system: the number of characters before it, and the run. -/
structure LineRun where
  start : Nat
  text : List Char
deriving DecidableEq, Repr

def runsOf (writing : WritingSystem) (line : List Char) : List LineRun :=
  (writing.runs line).filterMap fun span => do
    let before ← Text.slice? line ⟨0, span.start⟩
    let text ← Text.slice? line span
    return ⟨before.length, text⟩

def issueOf (number : Nat) (line : List Char) (run : LineRun) : Issue where
  line := number
  column := run.start + 1
  text := String.ofList run.text
  context := contextOf line run.start run.text.length
  sourceLine := String.ofList line
  severity := .error

/-- The issues of a line whose characters have these classes. -/
def lineIssues (writing : WritingSystem) (number : Nat) (line : List Char)
    (classes : List CharClass) : List Issue :=
  if isCommentLine line then []
  else ((runsOf writing line).filter fun run => classes[run.start]?.any (·.isReported)).map
    (issueOf number line)

def issuesFrom (writing : WritingSystem) (rules : CallRules) :
    Nat → LineState → List (List Char) → List Issue
  | _, _, [] => []
  | number, state, line :: lines =>
    let (classes, state) := LineState.classify rules [] state line
    lineIssues writing number line classes
      ++ issuesFrom writing rules (number + 1) state.nextLine lines

/-- The issues of a source, in order. -/
def issues (config : Config) (content : String) : List Issue :=
  issuesFrom config.writingSystem (CallRules.ofConfig config) 1 {} (Text.lines content.toList)

end Validation
end Phrasebook
