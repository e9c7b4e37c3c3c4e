import Phrasebook.Script.Cursor
import Phrasebook.Script.Mark
import Phrasebook.Script.Numeral
import Phrasebook.Script.Quoted

/-!
Tokens. A template literal begins with the token of its backtick and a regular expression with a
slash; the grammar reads the rest of both, because only it knows that one may stand there.
-/

namespace Phrasebook.Script

inductive Token
  | finish
  | word (name : String) (escaped : Bool)
  | privateWord (name : String)
  | mark (mark : Mark)
  /-- No value: the literal holds half of a surrogate pair. -/
  | string (value : Option String)
  | number (value : Numeral)
  | integer (value : Nat)
  | malformed (error : SyntaxError)

structure Lexeme where
  token : Token
  start : Cursor
  stop : Cursor
  /-- Whether a line ends before the token. -/
  afterBreak : Bool

def markIn (spellings : List (String × Mark)) (cs : List Char) : Option (Nat × Mark) :=
  (spellings.find? fun (spelling, _) => spelling.toList.isPrefixOf cs).map
    fun (spelling, mark) => (spelling.length, mark)

def wordToken (make : Bool → String → Token) (cs : List Char) (p : Nat) : Token × Cursor :=
  match readWordParts (cs.length + 1) cs p with
  | .ok (escaped, name, stop) => (make escaped (String.ofList name), stop)
  | .error e => (.malformed e, ⟨cs, p⟩)

def startsWord (cs : List Char) : Bool :=
  match cs with
  | '\\' :: 'u' :: rest =>
    (match readCodePoint rest 0 with
      | .ok (code, _) => isWordStart (Char.ofNat code)
      | .error _ => false)
  | c :: _ => isWordStart c
  | [] => false

/-- The token at a place where no gap is. -/
def readToken (cursor : Cursor) : Token × Cursor :=
  let p := cursor.position
  match cursor.rest with
  | [] => (.finish, cursor)
  | c :: cs =>
    if c == '"' || c == '\'' then
      match readString c cs (p + 1) with
      | .ok (value, stop) => (.string value, stop)
      | .error e => (.malformed e, cursor)
    else if c.isDigit || (c == '.' && (cs.head?.map Char.isDigit).getD false) then
      match Numeral.read (c :: cs) p with
      | .ok (.number value, stop) => (.number value, stop)
      | .ok (.integer value, stop) => (.integer value, stop)
      | .error e => (.malformed e, cursor)
    else if startsWord (c :: cs) then
      wordToken (fun escaped name => .word name escaped) (c :: cs) p
    else if c == '#' && startsWord cs then wordToken (fun _ name => .privateWord name) cs (p + 1)
    else if c == '>' then (.mark .greater, ⟨cs, p + 1⟩)
    else if c == '?' && cs.head? == some '.' && ((cs.drop 1).head?.map Char.isDigit).getD false then
      (.mark .question, ⟨cs, p + 1⟩)
    else
      match markIn Mark.spellings (c :: cs) with
      | some (n, mark) => (.mark mark, cursor.drop n)
      | none => (.malformed ⟨.unexpectedCharacter, p⟩, cursor)

/-- The next token behind a place, and the comments before it. -/
def nextLexeme (cursor : Cursor) (first : Bool) : Lexeme × List Span :=
  let gap := gapAt cursor first
  let (token, stop) := readToken gap.stop
  (⟨token, gap.stop, stop, gap.breaks⟩, gap.comments)

/-- The longest operator that begins at a `>`. -/
def readGreater (cursor : Cursor) : Mark × Cursor :=
  match markIn Mark.greaterSpellings cursor.rest with
  | some (n, mark) => (mark, cursor.drop n)
  | none => (.greater, cursor.drop 1)

end Phrasebook.Script
