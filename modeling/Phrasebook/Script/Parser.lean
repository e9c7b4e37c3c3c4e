import Phrasebook.Script.Dialect
import Phrasebook.Script.Lexeme
import Phrasebook.Script.Quoted
import Phrasebook.Script.Tree

/-!
Parsers: programs that read tokens one at a time, see the context they run in, and stop at the first
syntax error. The state survives an error, so a caller may go on from the token where it showed.
-/

namespace Phrasebook.Script

structure Context where
  dialect : Dialect
  /-- More than the number of tokens. -/
  limit : Nat
  /-- Whether `in` is an operator. Each place that holds an expression says so itself. -/
  allowIn : Bool := false
  generator : Bool := false
  async : Bool := false
  /-- Inside a declaration without implementation. -/
  ambient : Bool := false
  /-- Inside a branch of a conditional expression. -/
  inBranch : Bool := false
  /-- Inside the first branch, whose end is a colon. -/
  colonEnds : Bool := false
  /-- Whether `extends` makes a conditional type. -/
  conditionalTypes : Bool := true
  /-- Where an arrow function may begin. -/
  arrowAt : Option Nat := none
  inForHead : Bool := false

structure State where
  lexeme : Lexeme
  /-- End of the token before the current one. -/
  lastStop : Nat
  comments : List Span

abbrev Parser := ReaderT Context (EStateM SyntaxError State)

/-- What the productions of the grammar call each other for. -/
inductive Goal
  | moduleItem
  /-- A statement; the flag admits declarations. -/
  | statement (declarations : Bool)
  | assignment
  | unary
  /-- What follows a left operand, as far as operators bind more tightly than the bound. -/
  | operators (left : Tree) (bound : Nat)
  /-- An expression that can be called, assigned to or taken apart. -/
  | access
  /-- The same, up to the first call. -/
  | callee
  | binding
  | type
  | typeOperand
  /-- A markup element from its name on; the `<` before it stands at this position. The final `>` is
  left for the caller, who knows how to read on. -/
  | element (first : Nat)

abbrev Productions := Goal → Parser Tree

namespace Parser

def lexeme : Parser Lexeme := return (← get).lexeme

def token : Parser Token := return (← get).lexeme.token

def start : Parser Nat := return (← get).lexeme.start.position

def lastStop : Parser Nat := return (← get).lastStop

def fail (fault : Fault) (position : Nat) : Parser α := throw ⟨fault, position⟩

/-- The current token may not stand here. -/
def unexpected : Parser α := do
  match ← token with
  | .malformed error => throw error
  | _ => fail .unexpectedToken (← start)

/-- Goes on at a place that the caller has read up to. -/
def resumeAt (place : Cursor) : Parser Unit :=
  modify fun s =>
    let (lexeme, comments) := nextLexeme place false
    ⟨lexeme, place.position, comments ++ s.comments⟩

def advance : Parser Unit := do resumeAt (← lexeme).stop

/-- The token behind the current one. -/
def peek : Parser Lexeme := return (nextLexeme (← lexeme).stop false).1

def span (first : Nat) : Parser Span := return ⟨first, ← lastStop⟩

def node (kind : Kind) (first : Nat) (parts : List Tree) : Parser Tree :=
  return .node kind (← span first) parts

def afterBreak : Parser Bool := return (← lexeme).afterBreak

def atEnd : Parser Bool := do
  match ← token with
  | .finish => return true
  | _ => return false

def isMark (m : Mark) : Parser Bool := do
  match ← token with
  | .mark n => return m == n
  | _ => return false

def isWord (w : String) : Parser Bool := do
  match ← token with
  | .word v false => return v == w
  | _ => return false

def isOneOf (ms : List Mark) : Parser Bool := do
  match ← token with
  | .mark n => return ms.contains n
  | _ => return false

def eatMark (m : Mark) : Parser Bool := do
  if ← isMark m then advance; return true
  else return false

def eatWord (w : String) : Parser Bool := do
  if ← isWord w then advance; return true
  else return false

def expectMark (m : Mark) : Parser Unit := do
  unless ← eatMark m do unexpected

def expectWord (w : String) : Parser Unit := do
  unless ← eatWord w do unexpected

/-- A semicolon stands here or may be left out. -/
def atSemicolon : Parser Bool := do
  if ← isOneOf [.semicolon, .closeBrace] then return true
  else if ← atEnd then return true
  else afterBreak

def eatSemicolon : Parser Bool := do
  if ← eatMark .semicolon then return true else atSemicolon

def expectSemicolon : Parser Unit := do
  unless ← eatSemicolon do unexpected

/-- Runs a parser; if it fails or finds nothing, what it read is read again. -/
def attempt (p : Parser (Option α)) : Parser (Option α) := do
  let saved ← get
  let result ← try p catch _ => pure none
  if result.isNone then set saved
  return result

/-- Tells whether a parser would succeed, reading nothing. -/
def ahead (p : Parser Bool) : Parser Bool := do
  let saved ← get
  let result ← try p catch _ => pure false
  set saved
  return result

def collectFrom : Nat → Parser (Option α) → Parser (List α)
  | 0, _ => pure []
  | n + 1, step => do
    match ← step with
    | none => return []
    | some a => return a :: (← collectFrom n step)

/-- Results of a step until it finds nothing. -/
def collect (step : Parser (Option α)) : Parser (List α) := do
  collectFrom (← read).limit step

def loopFrom : Nat → (α → Parser (Option α)) → α → Parser α
  | 0, _, a => pure a
  | n + 1, step, a => do
    match ← step a with
    | none => return a
    | some b => loopFrom n step b

/-- Repeats a step until it has nothing to change. -/
def loop (step : α → Parser (Option α)) (a : α) : Parser α := do
  loopFrom (← read).limit step a

/-- An item with the comma behind it, or nothing where the list ends. -/
def listItem? (close : Mark) (item : Parser α) : Parser (Option α) := do
  if ← isMark close then return none
  if ← atEnd then return none
  let a ← item
  unless ← isMark close do expectMark .comma
  return some a

/-- Items with commas between them, up to the closing mark, which is read. A comma may come last. -/
def listUntil (close : Mark) (item : Parser α) : Parser (List α) := do
  let items ← collect (listItem? close item)
  expectMark close
  return items

def typed : Parser Bool := return (← read).dialect.typed

def markup : Parser Bool := return (← read).dialect.markup

def withIn (p : Parser α) : Parser α := withReader ({ · with allowIn := true }) p

/-- Inside brackets of any kind a conditional expression around them does not matter. -/
def inBrackets (p : Parser α) : Parser α :=
  withReader ({ · with allowIn := true, colonEnds := false }) p

end Parser
end Phrasebook.Script
