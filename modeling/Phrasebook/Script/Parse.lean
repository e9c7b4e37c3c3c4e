import Phrasebook.Script.Grammar.Module
import Phrasebook.Text.Lines

/-!
Parsing of whole scripts. A byte order mark in front is dropped before positions are counted, and a
first line that begins with `#!` is passed over.
-/

namespace Phrasebook.Script

open Grammar Phrasebook.Script.Parser

/-- The production of a nonterminal, given those of all nonterminals. -/
def produce (rec : Productions) : Productions
  | .moduleItem => moduleItem rec
  | .statement declarations => statement rec declarations
  | .assignment => assignment rec
  | .unary => unary rec
  | .operators left bound => operators rec left bound
  | .access => access rec
  | .callee => callee rec
  | .binding => binding rec
  | .type => type rec
  | .typeOperand => operatorType rec
  | .element first => element rec first

/-- Productions that may call each other to this depth. -/
def productions : Nat → Productions
  | 0, _ => do fail .tooDeep (← start)
  | depth + 1, goal => produce (productions depth) goal

def moduleItems (depth : Nat) : Parser (List Tree) :=
  collect do
    if ← atEnd then return none else return some (← productions depth .moduleItem)

/-- A script that has been read. -/
structure Document where
  dialect : Dialect
  /-- The source that positions refer to. -/
  source : List Char
  items : List Tree
  /-- Spans of all comments, in order. -/
  comments : List Span

/-- Behind a first line that begins with `#!`. -/
def skipInterpreter (cs : List Char) : Cursor :=
  match cs with
  | '#' :: '!' :: rest => (Cursor.takeWhile (fun c => !isLineEnd c) rest 2).2
  | _ => ⟨cs, 0⟩

def dropByteOrderMark : List Char → List Char
  | '\ufeff' :: cs => cs
  | cs => cs

/-- Spans in order, each once. -/
def inOrder (spans : List Span) : List Span :=
  (spans.mergeSort Span.before).eraseDups

/-- Reads a script. The depth covers the deepest nesting that the source has room for. -/
def parse (dialect : Dialect) (text : List Char) : Except SyntaxError Document :=
  let source := dropByteOrderMark text
  let size := source.length
  let (lexeme, comments) := nextLexeme (skipInterpreter source) true
  let context : Context := { dialect := dialect, limit := size + 2 }
  match (moduleItems (16 * (size + 2))).run context ⟨lexeme, 0, comments⟩ with
  | .ok items state => .ok ⟨dialect, source, items, inOrder state.comments⟩
  | .error e _ => .error e

/-- Line ends before a position: a line feed, a carriage return, or both in a row. -/
def lineEndsBefore : List Char → Nat → Nat → Nat
  | [], _, _ => 0
  | '\r' :: '\n' :: cs, p, position =>
    if p + 2 ≤ position then lineEndsBefore cs (p + 2) position + 1 else 0
  | c :: cs, p, position =>
    if p + c.utf8Size ≤ position then
      lineEndsBefore cs (p + c.utf8Size) position + (if c == '\n' || c == '\r' then 1 else 0)
    else 0

/-- The line of a position, counted from 1. -/
def Document.lineAt (script : Document) (position : Nat) : Nat :=
  lineEndsBefore script.source 0 position + 1

end Phrasebook.Script
