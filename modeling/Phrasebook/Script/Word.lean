import Phrasebook.Character.Identifier
import Phrasebook.Script.Cursor
import Phrasebook.Script.Fault

/-!
Words: identifiers and keywords, read alike and told apart by the grammar. A word with an escape in
it is never a keyword.
-/

namespace Phrasebook.Script

def isWordStart (c : Char) : Bool :=
  c.isAlpha || c == '_' || c == '$' || (128 ≤ c.toNat && Character.idStart.contains c)

def isWordPart (c : Char) : Bool :=
  c.isAlphanum || c == '_' || c == '$' || c == '\u200c' || c == '\u200d'
    || (128 ≤ c.toNat && Character.idContinue.contains c)

def hexValue? (c : Char) : Option Nat :=
  if c.isDigit then some (c.toNat - '0'.toNat)
  else if 'a' ≤ c && c ≤ 'f' then some (c.toNat - 'a'.toNat + 10)
  else if 'A' ≤ c && c ≤ 'F' then some (c.toNat - 'A'.toNat + 10)
  else none

/-- The number with these hexadecimal digits, unless there are none or one is no digit. -/
def hexNumber? : List Char → Option Nat
  | [] => none
  | cs => cs.foldl (fun n? c => do return (← n?) * 16 + (← hexValue? c)) (some 0)

/-- The code point behind `\u`: four digits, or any number of them in braces. -/
def readCodePoint (cs : List Char) (p : Nat) : Except SyntaxError (Nat × Cursor) :=
  match cs with
  | '\x7b' :: cs =>
    let digits := cs.takeWhile (· != '\x7d')
    match hexNumber? digits, cs.drop digits.length with
    | some n, '\x7d' :: after =>
      if n ≤ 0x10ffff then .ok (n, ⟨after, p + digits.length + 2⟩) else .error ⟨.badEscape, p⟩
    | _, _ => .error ⟨.badEscape, p⟩
  | _ =>
    match hexNumber? (cs.take 4) with
    | some n => if 4 ≤ cs.length then .ok (n, ⟨cs.drop 4, p + 4⟩) else .error ⟨.badEscape, p⟩
    | none => .error ⟨.badEscape, p⟩

/-- The rest of a word. The first component says whether an escape occurred. The escapes are bounded
by the length of the source. -/
def readWordParts : Nat → List Char → Nat → Except SyntaxError (Bool × List Char × Cursor)
  | 0, cs, p => .ok (false, [], ⟨cs, p⟩)
  | fuel + 1, cs, p =>
    match Cursor.takeWhile isWordPart cs p with
    | (run, ⟨'\\' :: 'u' :: rest, q⟩) => do
      let (code, stop) ← readCodePoint rest (q + 2)
      if isWordPart (Char.ofNat code) then
        let (_, more, stop) ← readWordParts fuel stop.rest stop.position
        return (true, run ++ Char.ofNat code :: more, stop)
      else throw ⟨.badEscape, q⟩
    | (run, stop) => .ok (false, run, stop)

/-- Keywords that never are identifiers. -/
def keywords : List String := [
  "break", "case", "catch", "continue", "debugger", "default", "do", "export", "else", "finally",
  "for", "function", "if", "return", "switch", "throw", "try", "var", "const", "while", "with",
  "new", "this", "super", "class", "extends", "import", "in", "instanceof", "typeof", "void",
  "delete", "null", "true", "false"]

def isKeyword (word : String) : Bool := keywords.contains word

/-- Words that a module reserves although no rule of the grammar uses them. -/
def reservedWords : List String := [
  "enum", "implements", "package", "protected", "interface", "private", "public"]

end Phrasebook.Script
