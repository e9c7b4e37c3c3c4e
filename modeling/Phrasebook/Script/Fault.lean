/-!
Reasons why a source is no script, with the byte position where this shows.
-/

namespace Phrasebook.Script

inductive Fault
  | unexpectedToken
  | unexpectedCharacter
  | unterminatedTemplate
  | unterminatedPattern
  | badEscape
  | badNumber
  | badTarget
  | badParameter
  | badArrow
  | emptyParens
  | strayRest
  | lineBreak
  | missingInitializer
  | misplacedModuleItem
  | unbalancedElement
  | tooDeep
deriving DecidableEq, Repr

structure SyntaxError where
  fault : Fault
  position : Nat
deriving DecidableEq, Repr

def Fault.message : Fault → String
  | unexpectedToken => "unexpected token"
  | unexpectedCharacter => "unexpected character"
  | unterminatedTemplate => "unterminated template literal"
  | unterminatedPattern => "unterminated regular expression"
  | badEscape => "invalid escape sequence"
  | badNumber => "invalid number"
  | badTarget => "cannot assign to this expression"
  | badParameter => "not a parameter"
  | badArrow => "no arrow function may stand here"
  | emptyParens => "parentheses without an expression"
  | strayRest => "spread in parentheses"
  | lineBreak => "unexpected line break"
  | missingInitializer => "a pattern needs an initial value"
  | misplacedModuleItem => "import and export stand at the top level only"
  | unbalancedElement => "element is not closed"
  | tooDeep => "nested too deeply"

def SyntaxError.message (e : SyntaxError) : String :=
  s!"{e.fault.message} at byte {e.position}"

end Phrasebook.Script
