import Phrasebook.Script.Parser

/-!
Expressions read again as patterns. Parentheses and the left side of an assignment are read as
expressions, before it is known what they are; a part that makes no pattern is passed over.
-/

namespace Phrasebook.Script

/-- What a pattern is for: the parameters of an arrow function, a whole left side, or a part of one.
-/
inductive TargetRole
  | parameter
  | assigned
  | part
deriving DecidableEq

namespace TargetRole

/-- The role of what is inside. -/
def inner : TargetRole → TargetRole
  | parameter => parameter
  | _ => part

end TargetRole

namespace Tree

def isHole : Tree → Bool
  | node .hole _ _ => true
  | _ => false

/-- Whether an expression stays as it is when it becomes a part of a left side. -/
def staysInPart : Kind → Bool
  | .identifier _ | .member .plain | .index .plain | .call .plain | .new | .null | .boolean _
  | .number _ | .integer _ | .string _ | .pattern _ | .functionExpression | .classExpression
  | .parens | .template _ => true
  | .typeCast word => word == "as"
  | _ => false

mutual

/-- The pattern that an expression spells. Methods cannot be in a pattern. -/
def asPattern (role : TargetRole) : Tree → Except SyntaxError Tree
  | node .object span properties => do
    let properties ← propertyPatterns role properties
    return node (.objectPattern false) span [node .group span properties, absent]
  | node .array span elements => do
    let elements ← elementPatterns role elements
    return node (.arrayPattern false) span [node .group span elements, absent]
  | node (.assignment .assign) span [left, right] => do
    match role with
    | .assigned => return node (.assignment .assign) span [left, right]
    | _ =>
      let left ← asPattern role left
      return node .withDefault span [left, right]
  | node (.identifier name) span parts =>
    if role == .parameter then .ok (node (.binding name false) span [absent])
    else .ok (node (.identifier name) span parts)
  | node (.objectPattern optional) span parts => .ok (node (.objectPattern optional) span parts)
  | node (.arrayPattern optional) span parts => .ok (node (.arrayPattern optional) span parts)
  | node kind span parts =>
    match role with
    | .assigned => .ok (node kind span parts)
    | .part => .ok (if staysInPart kind then node kind span parts else node .invalid span [])
    | .parameter => .ok (node .invalid span [])

/-- The elements of an array pattern. A spread is a rest pattern if it comes last. -/
def elementPatterns (role : TargetRole) : List Tree → Except SyntaxError (List Tree)
  | [] => .ok []
  | node .spread span [inner] :: rest => do
    if rest.isEmpty then
      let inner ← asPattern role.inner inner
      return [node .rest span [inner, absent]]
    else elementPatterns role rest
  | node .hole span parts :: rest => do
    if rest.all isHole then return []
    let rest ← elementPatterns role rest
    return node .hole span parts :: rest
  | element :: rest => do
    let element ← asPattern role.inner element
    let rest ← elementPatterns role rest
    return element :: rest

def propertyPatterns (role : TargetRole) : List Tree → Except SyntaxError (List Tree)
  | [] => .ok []
  | property :: rest => do
    let property ← propertyPattern role property
    let rest ← propertyPatterns role rest
    return property :: rest

def propertyPattern (role : TargetRole) : Tree → Except SyntaxError Tree
  | node (.shorthand name) span _ => .ok (node (.shorthandPattern name) span [absent])
  | node (.shorthandDefault name) span parts => .ok (node (.shorthandPattern name) span parts)
  | node .keyValue span [key, value] => do
    let value ← asPattern role.inner value
    return node .keyPattern span [key, value]
  | node .spread span [inner] => do
    match role, inner with
    | .parameter, node (.identifier name) innerSpan _ =>
      return node .rest span [node (.binding name false) innerSpan [absent], absent]
    | .parameter, _ => return node .rest span [node .invalid span [], absent]
    | _, _ =>
      let inner ← asPattern role.inner inner
      return node .rest span [inner, absent]
  | node _ span _ => .error ⟨.badParameter, span.start⟩

end

/-- Whether something can be assigned to by an operator other than a plain `=`. -/
def isPlace : Tree → Bool
  | node (.identifier _) _ _ | node (.member _) _ _ | node (.index _) _ _ | node .parens _ _
  | node (.typeCast _) _ _ | node .nonNull _ _ | node .instantiation _ _ => true
  | _ => false

/-- The left side of an assignment. -/
def asTarget (operator : Mark) (tree : Tree) : Except SyntaxError Tree := do
  if operator == .assign then
    let target ← asPattern .assigned tree
    match target with
    | node (.objectPattern _) _ _ | node (.arrayPattern _) _ _ | node .invalid _ _ => return target
    | _ => if isPlace target then return target else throw ⟨.badTarget, tree.span.start⟩
  else if isPlace tree then return tree
  else throw ⟨.badTarget, tree.span.start⟩

end Tree
end Phrasebook.Script
