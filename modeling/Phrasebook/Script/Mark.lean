/-!
Punctuation of the script language. The reader takes the longest mark that fits, except that a `>`
always stands alone: in a type it closes a bracket, and only between operands does it join with what
follows.
-/

namespace Phrasebook.Script

inductive Mark
  | openParen | closeParen | openBracket | closeBracket | openBrace | closeBrace
  | semicolon | comma | dot | dots | question | questionDot | colon | arrow | atSign | backtick
  | plus | minus | star | slash | percent | power | increment | decrement
  | shiftLeft | shiftRight | shiftRightZero
  | bitAnd | bitOr | bitXor | bitNot | negate | both | either | orNull
  | less | greater | lessEqual | greaterEqual | equal | notEqual | same | notSame
  | assign | plusAssign | minusAssign | starAssign | slashAssign | percentAssign | powerAssign
  | shiftLeftAssign | shiftRightAssign | shiftRightZeroAssign
  | bitAndAssign | bitOrAssign | bitXorAssign | bothAssign | eitherAssign | orNullAssign
deriving DecidableEq, Repr

namespace Mark

/-- Spellings that the token reader knows, longer ones before their beginnings. -/
def spellings : List (String × Mark) := [
  ("<<=", shiftLeftAssign), ("**=", powerAssign), ("&&=", bothAssign), ("||=", eitherAssign),
  ("??=", orNullAssign), ("===", same), ("!==", notSame), ("...", dots),
  ("=>", arrow), ("==", equal), ("!=", notEqual), ("<=", lessEqual), ("<<", shiftLeft),
  ("&&", both), ("||", either), ("??", orNull), ("?.", questionDot), ("++", increment),
  ("--", decrement), ("**", power), ("+=", plusAssign), ("-=", minusAssign), ("*=", starAssign),
  ("/=", slashAssign), ("%=", percentAssign), ("&=", bitAndAssign), ("|=", bitOrAssign),
  ("^=", bitXorAssign),
  ("(", openParen), (")", closeParen), ("[", openBracket), ("]", closeBracket),
  ("\x7b", openBrace), ("\x7d", closeBrace), (";", semicolon), (",", comma), (".", dot),
  ("?", question), (":", colon), ("@", atSign), ("\x60", backtick), ("+", plus), ("-", minus),
  ("*", star), ("/", slash), ("%", percent), ("&", bitAnd), ("|", bitOr), ("^", bitXor),
  ("~", bitNot), ("!", negate), ("<", less), (">", greater), ("=", assign)]

/-- What a `>` becomes between operands together with the characters after it. -/
def greaterSpellings : List (String × Mark) := [
  (">>>=", shiftRightZeroAssign), (">>>", shiftRightZero), (">>=", shiftRightAssign),
  (">>", shiftRight), (">=", greaterEqual), (">", greater)]

/-- How tightly a binary operator binds; none for the other marks. -/
def precedence? : Mark → Option Nat
  | either | orNull => some 1
  | both => some 2
  | bitOr => some 3
  | bitXor => some 4
  | bitAnd => some 5
  | equal | notEqual | same | notSame => some 6
  | less | greater | lessEqual | greaterEqual => some 7
  | shiftLeft | shiftRight | shiftRightZero => some 8
  | plus | minus => some 9
  | star | slash | percent => some 10
  | power => some 11
  | _ => none

def isAssignment : Mark → Bool
  | assign | plusAssign | minusAssign | starAssign | slashAssign | percentAssign | powerAssign
  | shiftLeftAssign | shiftRightAssign | shiftRightZeroAssign
  | bitAndAssign | bitOrAssign | bitXorAssign | bothAssign | eitherAssign | orNullAssign => true
  | _ => false

end Mark
end Phrasebook.Script
