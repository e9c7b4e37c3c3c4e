import Phrasebook.Occurrence.Basic
import Phrasebook.Text.Space
import Phrasebook.Text.Search

/-!
Placeholders for captured expressions. An identifier stands for itself and a dotted path for its
last name; anything else is named by its index.
-/

namespace Phrasebook.Binding

def positionalName (index : Nat) : String := s!"val{index}"

/-- What follows the last dot, if there is one. -/
def lastName? (expression : String) : Option String :=
  match (Text.splitDots expression).reverse with
  | last :: _ :: _ => some last
  | _ => none

def safeName (expression : String) (index : Nat) : String :=
  let expression := Text.trimmed expression
  if Text.isIdentifier expression then expression
  else match lastName? expression with
  | some last => if Text.isIdentifier last then last else positionalName index
  | none => positionalName index

/-- Whether another expression has this label. -/
def taken (bound : List Binding) (label expression : String) : Bool :=
  bound.any fun b => b.label == label && b.expression != expression

def bindFrom (bound : List Binding) (index : Nat) : List String → List Binding
  | [] => bound
  | expression :: rest =>
    let name := safeName expression index
    let label := if taken bound name expression then positionalName index else name
    bindFrom (bound ++ [⟨label, expression⟩]) (index + 1) rest

/-- Placeholders for the expressions of one interpolation. A name that another expression has
already is not used again. -/
def bind (expressions : List String) : List Binding := bindFrom [] 0 expressions

end Phrasebook.Binding
