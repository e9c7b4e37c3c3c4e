import Phrasebook.Config.Basic
import Phrasebook.Occurrence.Basic
import Phrasebook.Text.Quoted
import Phrasebook.Text.Space

/-!
Translation calls: what an occurrence is replaced by.
-/

namespace Phrasebook.Rewriting

/-- The property that passes an expression to a call. -/
def argument (b : Binding) : String := b.label ++ ": " ++ Text.trimmed b.expression

/-- A call for a key. Expressions go into an object behind it. -/
def call (callee key : String) (bindings : List Binding) : String :=
  let arguments := if bindings.isEmpty then ""
    else ", \x7b " ++ ", ".intercalate (bindings.map argument) ++ " \x7d"
  callee ++ "('" ++ Text.quoteText key ++ "'" ++ arguments ++ ")"

/-- A call in the markup, as the construct that it stands in needs it. -/
def inMarkup (site : Site) (call : String) : String :=
  match site with
  | .ternaryBranch => call
  | .attribute name => ":" ++ name ++ "=\"" ++ call ++ "\""
  | _ => "\x7b\x7b " ++ call ++ " \x7d\x7d"

def replacement (calls : CallSpellings) (region : Region) (site : Site) (key : String)
    (bindings : List Binding) : String :=
  match region with
  | .template => inMarkup site (call calls.template key bindings)
  | .script => call calls.component key bindings
  | .file => call calls.module key bindings

end Phrasebook.Rewriting
