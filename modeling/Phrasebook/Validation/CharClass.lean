import Phrasebook.Character.Alphanumeric
import Phrasebook.Config.Basic
import Phrasebook.Text.Match

/-!
A rough reading of source lines, the same for scripts and for markup: which characters are in
comments, in quotes or between double braces. Comments, backquotes and diagnostic calls reach over
line ends.
-/

namespace Phrasebook.Validation

open Text Matcher

inductive CharClass
  | bare
  | comment
  /-- In quotes; wrapped if the quotes are an argument of a translation or diagnostic call, or name
  a module. -/
  | quoted (wrapped : Bool)
  | interpolation
deriving DecidableEq, Repr

/-- Whether text of this class counts as left over. -/
def CharClass.isReported : CharClass → Bool
  | quoted wrapped => !wrapped
  | interpolation => true
  | _ => false

inductive CommentKind
  | block
  | markup
deriving DecidableEq, Repr

def CommentKind.close : CommentKind → List Char
  | block => ['*', '/']
  | markup => ['-', '-', '>']

/-- The calls whose arguments are no longer to be translated. -/
structure CallRules where
  spellings : List String
  diagnosticObjects : List String

def CallRules.ofConfig (config : Config) : CallRules where
  spellings := [config.calls.template, config.calls.component, config.calls.module]
  diagnosticObjects := config.diagnosticObjects

namespace CallRules

/-- A translation call whose first argument comes next. -/
def translationCall (rules : CallRules) : Matcher :=
  anyOf rules.spellings <| spaces <| literal ['('] <| spaces atEnd

/-- A word behind which the name of a module comes. -/
def moduleLoad : Matcher :=
  let open_ (word : String) : Matcher := literal word.toList (spaces (literal ['('] (spaces atEnd)))
  wordEdge <| either (anyOf ["from", "import"] (spaces atEnd))
    (either (open_ "import") (open_ "require"))

/-- A call of a method of a diagnostic object. -/
def diagnosticCall (rules : CallRules) : Matcher :=
  anyOf rules.diagnosticObjects <| spaces <| literal ['.'] <| spaces <|
    char (fun c => c.isAlpha || c == '_' || c == '$') <|
    many (fun c => isWord c || c == '$') <| spaces <| literal ['('] done

/-- Whether quotes behind a text hold something wrapped. -/
def wraps (rules : CallRules) (line : List Char) : Bool :=
  (anywhere (either rules.translationCall moduleLoad)).matchesAt line

end CallRules

/-- What is known at a place in a line. -/
structure LineState where
  comment : Option CommentKind := none
  /-- The open quote, and whether what it holds is wrapped. -/
  quote : Option (Char × Bool) := none
  /-- Open parentheses of a diagnostic call. -/
  diagnosticDepth : Nat := 0
  /-- A diagnostic call has begun, but its parenthesis is still to come. -/
  diagnosticPending : Bool := false
  interpolation : Bool := false
  /-- Classes of the next characters, as far as they are settled. -/
  settled : List CharClass := []
deriving DecidableEq, Repr

namespace LineState

def startsWord (before : List Char) : Bool :=
  match before with
  | [] => true
  | c :: _ => !(Character.alphanumeric.contains c || c == '_' || c == '$' || c == '.')

def parens (c : Char) (s : LineState) : LineState :=
  if c == '(' && s.diagnosticPending
    then { s with diagnosticPending := false, diagnosticDepth := 1 }
  else if c == '(' && s.diagnosticDepth ≠ 0 then { s with diagnosticDepth := s.diagnosticDepth + 1 }
  else if c == ')' then { s with diagnosticDepth := s.diagnosticDepth - 1 }
  else s

/-- A character of a comment. -/
def stepComment (kind : CommentKind) (s : LineState) (c : Char) (cs : List Char) :
    CharClass × LineState :=
  if kind.close.isPrefixOf (c :: cs) then
    (.comment,
      { s with comment := none, settled := List.replicate (kind.close.length - 1) .comment })
  else (.comment, s)

/-- A character in quotes. A backslash takes the next character with it. -/
def stepQuote (quote : Char) (wrapped : Bool) (s : LineState) (c : Char) : CharClass × LineState :=
  if c == '\\' then (.quoted wrapped, { s with settled := [.quoted wrapped] })
  else if c == quote then (.quoted wrapped, { s with quote := none })
  else (.quoted wrapped, s)

def isQuote (c : Char) : Bool := c == '\'' || c == '"' || c == '\x60'

/-- A character of code. The characters before it come in reverse order. -/
def stepCode (rules : CallRules) (before : List Char) (s : LineState) (c : Char) (cs : List Char) :
    CharClass × LineState :=
  let here := c :: cs
  if ['/', '/'].isPrefixOf here then (.comment, { s with settled := cs.map fun _ => .comment })
  else if ['/', '*'].isPrefixOf here then
    (.comment, { s with comment := some .block, settled := [.comment] })
  else if ['<', '!', '-', '-'].isPrefixOf here then
    (.comment, { s with comment := some .markup, settled := [.comment, .comment, .comment] })
  else
    let begins := s.diagnosticDepth == 0 && !s.diagnosticPending && startsWord before
      && rules.diagnosticCall.matchesAt here
    let s := parens c (if begins then { s with diagnosticPending := true } else s)
    if isQuote c then
      let wrapped := s.diagnosticDepth ≠ 0 || rules.wraps before.reverse
      (.quoted wrapped, { s with quote := some (c, wrapped) })
    else if ['\x7b', '\x7b'].isPrefixOf here then
      (.bare, { s with interpolation := true, settled := [.bare] })
    else if ['\x7d', '\x7d'].isPrefixOf here then
      (.bare, { s with interpolation := false, settled := [.bare] })
    else (if s.interpolation then .interpolation else .bare, s)

def step (rules : CallRules) (before : List Char) (s : LineState) (c : Char) (cs : List Char) :
    CharClass × LineState :=
  match s.settled, s.comment, s.quote with
  | cls :: rest, _, _ => (cls, { s with settled := rest })
  | [], some kind, _ => stepComment kind s c cs
  | [], none, some (quote, wrapped) => stepQuote quote wrapped s c
  | [], none, none => stepCode rules before s c cs

/-- The classes of the characters of a line, and the state behind it. -/
def classify (rules : CallRules) : List Char → LineState → List Char → List CharClass × LineState
  | _, s, [] => ([], s)
  | before, s, c :: cs =>
    let (cls, s) := step rules before s c cs
    let (classes, s) := classify rules (c :: before) s cs
    (cls :: classes, s)

/-- The state at the start of the next line. -/
def nextLine (s : LineState) : LineState where
  comment := s.comment
  quote := s.quote.filter (·.1 == '\x60')
  diagnosticDepth := s.diagnosticDepth

end LineState
end Phrasebook.Validation
