import Phrasebook.Text.Case

/-!
Dialects of the script language. Markup elements may stand in expressions everywhere but in the
plain typed dialect, which keeps the angle brackets for type assertions.
-/

namespace Phrasebook.Script

inductive Dialect
  | javaScript
  | typeScript
  | tsx
deriving DecidableEq, Repr

namespace Dialect

/-- Whether types may be written. -/
def typed : Dialect → Bool
  | javaScript => false
  | _ => true

/-- Whether markup elements are expressions. -/
def markup : Dialect → Bool
  | typeScript => false
  | _ => true

def ofExtension? : String → Option Dialect
  | "js" | "jsx" | "mjs" | "cjs" => some javaScript
  | "ts" | "mts" | "cts" => some typeScript
  | "tsx" => some tsx
  | _ => none

/-- The dialect named by the `lang` attribute of a script block. -/
def ofLang : Option String → Dialect
  | none => javaScript
  | some lang =>
    match Text.lowercaseAscii lang with
    | "ts" | "typescript" => typeScript
    | "tsx" => tsx
    | _ => javaScript

end Dialect
end Phrasebook.Script
