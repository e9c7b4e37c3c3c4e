import Phrasebook.Script.Grammar.Access

/-!
Patterns, parameters and the bodies of functions; classes and their members.
-/

namespace Phrasebook.Script.Grammar

open Phrasebook.Script.Parser

/-- A pattern with a default value, if one is written. -/
def bindingElement (rec : Productions) : Parser Tree := do
  let first ← start
  let target ← rec .binding
  if ← eatMark .assign then
    let value ← withIn (rec .assignment)
    node .withDefault first [target, value]
  else return target

def restBinding (rec : Productions) (first : Nat) : Parser Tree := do
  let target ← rec .binding
  node .rest first [target, .absent]

def arrayBinding (rec : Productions) : Parser Tree := do
  let first ← start
  expectMark .openBracket
  let elements ← collect do
    if (← isMark .closeBracket) || (← atEnd) then return none
    let first ← start
    if ← eatMark .comma then return some (← node .hole first [])
    let element ← if ← eatMark .dots then restBinding rec first else bindingElement rec
    unless ← isMark .closeBracket do expectMark .comma
    return some element
  expectMark .closeBracket
  let span ← span first
  return .node (.arrayPattern false) span [.node .group span elements, .absent]

def objectBinding (rec : Productions) : Parser Tree := do
  let first ← start
  expectMark .openBrace
  let properties ← listUntil .closeBrace do
    let first ← start
    if ← eatMark .dots then restBinding rec first
    else
      let key ← propertyName rec
      if ← eatMark .colon then
        let target ← bindingElement rec
        node .keyPattern first [key, target]
      else match key with
      | .node (.name name) _ _ =>
        let value ← if ← eatMark .assign then withIn (rec .assignment) else pure .absent
        node (.shorthandPattern name) first [value]
      | _ => unexpected
  let span ← span first
  return .node (.objectPattern false) span [.node .group span properties, .absent]

/-- A name or a pattern that takes a value apart. -/
def binding (rec : Productions) : Parser Tree := do
  let first ← start
  match ← token with
  | .mark .openBracket => arrayBinding rec
  | .mark .openBrace => objectBinding rec
  | _ =>
    let name ← declaredName
    node (.binding name false) first [.absent]

/-- Adds a type, and the question mark before it, to a pattern. -/
def withType (pattern : Tree) (optional : Bool) (type : Tree) : Tree :=
  match pattern with
  | .node (.binding name _) span _ => .node (.binding name optional) span [type]
  | .node (.arrayPattern _) span (elements :: _) =>
    .node (.arrayPattern optional) span [elements, type]
  | .node (.objectPattern _) span (properties :: _) =>
    .node (.objectPattern optional) span [properties, type]
  | .node .rest span (target :: _) => .node .rest span [target, type]
  | tree => tree

/-- Statements in braces. The end of the source closes all blocks. -/
def block (rec : Productions) : Parser Tree := do
  let first ← start
  expectMark .openBrace
  let statements ← collect do
    if (← isMark .closeBrace) || (← atEnd) then return none
    else return some (← rec (.statement true))
  let _ ← eatMark .closeBrace
  node .block first statements

def inFunction (flags : FunctionFlags) (p : Parser α) : Parser α :=
  withReader ({ · with
    async := flags.async
    generator := flags.generator
    inForHead := false }) p

/-- A body in braces; the typed dialects let it be left out. -/
def functionBody (rec : Productions) (flags : FunctionFlags) : Parser Tree := do
  let required := !(← typed) || (← isMark .openBrace)
  if ← pure !required <&&> eatSemicolon then return .absent
  else inFunction flags (withIn (block rec))

/-- The body of an arrow function: a block or an expression. -/
def arrowBody (rec : Productions) (async : Bool) : Parser Tree := do
  if ← isMark .openBrace then inFunction ⟨async, false⟩ (withIn (block rec))
  else withReader ({ · with async := async, generator := false }) (rec .assignment)

/-- `@name.member(…)` or `@(expression)`. -/
def decorator (rec : Productions) : Parser Tree := do
  let first ← start
  expectMark .atSign
  let part ← if ← eatMark .openParen then do
      let inner ← withIn (expression rec)
      expectMark .closeParen
      pure inner
    else do
      let nameStart ← start
      let name ← declaredName
      let head ← node (.identifier name) nameStart []
      subscripts rec false true head
  node .decorator first [part]

def decorators (rec : Productions) : Parser (List Tree) :=
  collect do
    if ← isMark .atSign then return some (← decorator rec) else return none

/-- A pattern with what a parameter may add to it: a question mark, a type, a default value. -/
def parameterPattern (rec : Productions) : Parser Tree := do
  let first ← start
  let target ← rec .binding
  let optional ← if ← typed then eatMark .question else pure false
  let type ← annotation? rec
  let target := withType target optional type
  if ← eatMark .assign then
    let value ← rec .assignment
    node .withDefault first [target, value]
  else return target

def parameter (rec : Productions) : Parser Tree := do
  let first ← start
  let decorators ← decorators rec
  let patternStart ← start
  if ← eatMark .dots then
    let target ← rec .binding
    let target ← if ← eatMark .assign then do
        let value ← rec .assignment
        node .withDefault patternStart [target, value]
      else pure target
    let type ← annotation? rec
    let rest ← node .rest patternStart [target, type]
    node (.parameter []) first [.group decorators, rest]
  else
    let modifiers ← if ← typed then
        collect (modifier? ["public", "private", "protected", "readonly", "override"])
      else pure []
    let target ← parameterPattern rec
    node (.parameter modifiers) first [.group decorators, target]

def parameters (rec : Productions) : Parser Tree := do
  let first ← start
  expectMark .openParen
  let items ← withIn (listUntil .closeParen (parameter rec))
  node .group first items

/-- A function from its type parameters on. -/
def functionRest (rec : Productions) (first : Nat) (flags : FunctionFlags) : Parser Tree := do
  let (typeParams, items, type) ← withReader ({ · with
      async := flags.async, generator := flags.generator, colonEnds := false }) do
    let typeParams ← typeParameters? rec
    let items ← parameters rec
    let type ← if ← typed <&&> eatMark .colon then resultType rec else pure .absent
    return (typeParams, items, type)
  let body ← functionBody rec flags
  node (.function flags) first [items, .group [], body, typeParams, type]

/-- The word `function`, a star, and a name if there is one. -/
def functionHead : Parser (Bool × Tree) := do
  expectWord "function"
  let generator ← eatMark .star
  let first ← start
  if ← isMark .openParen then return (generator, .absent)
  if (← typed) && (← isMark .less) then return (generator, .absent)
  let name ← declaredName
  return (generator, ← node (.binding name false) first [.absent])

/-- A function expression; `first` is where a word `async` before it stands. -/
def functionExpression (rec : Productions) (first : Nat) (async : Bool) : Parser Tree := do
  let (generator, name) ← functionHead
  let function ← functionRest rec first ⟨async, generator⟩
  node .functionExpression first [name, function]

/-- A function declaration, whose name may be left out in a default export only. -/
def functionDeclaration (rec : Productions) (first : Nat) (async nameless declared : Bool) :
    Parser Tree := do
  let (generator, name) ← functionHead
  if !nameless && name.kind == .absent then unexpected
  let function ← functionRest rec first ⟨async, generator⟩
  node (.functionDeclaration declared) first [name, function]

/-- Whether a member that has just been named is a method. -/
def atMethod : Parser Bool := do
  if ← isMark .openParen then return true
  if ← typed then isMark .less else return false

/-- Whether a member that has just been named is a property; the flag lets a line end close it. -/
def atProperty (lineEnds : Bool) : Parser Bool := do
  if (← typed) && (← isOneOf [.negate, .colon]) then return true
  if ← isOneOf [.assign, .closeBrace] then return true
  if lineEnds then atSemicolon else isMark .semicolon

def methodRest (rec : Productions) (first : Nat) (key : Tree) (modifiers : Modifiers)
    (accessor : Option AccessorKind) (optional : Bool) (flags : FunctionFlags)
    (decorators : List Tree) : Parser Tree := do
  let function ← functionRest rec first flags
  let function := match function with
    | .node kind span [items, _, body, typeParams, type] =>
      .node kind span [items, .group decorators, body, typeParams, type]
    | tree => tree
  node (.classMethod modifiers accessor optional) first [key, function]

def propertyRest (rec : Productions) (first : Nat) (key : Tree) (modifiers : Modifiers)
    (optional : Bool) (decorators : List Tree) : Parser Tree := do
  let definite ← if ← typed then eatMark .negate else pure false
  let type ← annotation? rec
  let value ← if ← eatMark .assign then
      inBrackets (withReader ({ · with async := false, generator := false }) (rec .assignment))
    else pure .absent
  let _ ← eatSemicolon
  node (.classProperty modifiers optional definite) first [key, value, type, .group decorators]

def constructorRest (rec : Productions) (first : Nat) (key : Tree) (modifiers : Modifiers) :
    Parser Tree := do
  let _ ← typeParameters? rec
  let items ← withReader ({ · with async := false, generator := false }) (parameters rec)
  let _ ← annotation? rec
  let body ← functionBody rec {}
  node (.constructor modifiers) first [key, items, body]

def isConstructorKey : Tree → Bool
  | .node (.name name) _ _ => name == "constructor"
  | .node (.stringName (some name)) _ _ => name == "constructor"
  | _ => false

def isNamed (word : String) : Tree → Bool
  | .node (.name name) _ _ => name == word
  | _ => false

/-- The end of a member behind its modifiers. -/
def memberRest (rec : Productions) (first : Nat) (modifiers : Modifiers)
    (decorators : List Tree) : Parser Tree := do
  if ← eatMark .star then
    let key ← memberName rec
    return ← methodRest rec first key modifiers none false { generator := true } decorators
  let key ← memberName rec
  let optional ← if ← typed then eatMark .question else pure false
  if ← atMethod then
    if isConstructorKey key && !modifiers.contains "static" then
      return ← constructorRest rec first key modifiers
    return ← methodRest rec first key modifiers none optional {} decorators
  let starNext := (← afterBreak) && (← isMark .star)
  let isAccessor := (isNamed "get" key || isNamed "set" key) && !starNext && !(← atProperty false)
  if !isAccessor && (← atProperty true) then
    return ← propertyRest rec first key modifiers optional decorators
  if isNamed "async" key && !(← afterBreak) then
    let generator ← eatMark .star
    let key ← memberName rec
    let optional ← if ← typed then eatMark .question else pure false
    return ← methodRest rec first key modifiers none optional ⟨true, generator⟩ decorators
  if isAccessor then
    let accessor := if isNamed "get" key then AccessorKind.get else AccessorKind.set
    let key ← memberName rec
    return ← methodRest rec first key modifiers (some accessor) false {} decorators
  if isNamed "accessor" key && !(← afterBreak) then
    let key ← memberName rec
    return ← propertyRest rec first key (modifiers ++ ["accessor"]) false decorators
  unexpected

/-- A modifier: a word that a name follows and nothing that would make the word a name itself. -/
def memberModifier? : Parser (Option String) := do
  let words ← if ← typed then
      pure ["declare", "public", "private", "protected", "static", "abstract",
        "readonly", "override"]
    else pure ["static"]
  match ← token with
  | .word w false =>
    if words.contains w then
      let next := (← peek).token
      if followsModifier next && (w == "static" || !(← peek).afterBreak)
          && !(isMarkToken .openBrace next) then
        advance
        return some w
      else return none
    else return none
  | _ => return none

/-- A member of a class. -/
def classMember (rec : Productions) : Parser Tree := do
  let first ← start
  let decorators ← decorators rec
  let modifiers ← collect memberModifier?
  if (← isWord "static") && isMarkToken .openBrace (← peek).token then
    advance
    let body ← withReader ({ · with async := false, generator := false }) (block rec)
    return ← node .staticBlock first [body]
  let index ← if (← typed) && (← isMark .openBracket) then indexSignature? rec first modifiers
    else pure none
  match index with
  | some tree => return tree
  | none => memberRest rec first modifiers decorators

/-- An expression with type arguments, as behind `extends` and `implements`. -/
def heritage (rec : Productions) : Parser Tree := do
  let first ← start
  let entity ← entityName
  let types ← typeArguments? rec
  node .heritage first [entity, types]

/-- Types behind `implements`, or behind `extends` in an interface. -/
def heritages (rec : Productions) : Parser (List Tree) := do
  let head ← heritage rec
  let more ← collect (do if ← eatMark .comma then return some (← heritage rec) else return none)
  return head :: more

/-- The name of a class and the class itself, from the word `class` on. -/
def classRest (rec : Productions) (isAbstract nameless : Bool) (decorators : List Tree) :
    Parser (Tree × Tree) := do
  expectWord "class"
  let nameStart ← start
  let named ← match ← token with
    | .word w escaped => do
      let heads ← isWord "implements"
      pure (escaped || !(w == "extends" || (heads && (← typed))))
    | _ => pure false
  let name ← if named then do
      let name ← declaredName
      node (.binding name false) nameStart [.absent]
    else if nameless then pure .absent
    else unexpected
  let classStart ← start
  let typeParams ← typeParameters? rec
  let (parent, parentTypes) ← if ← eatWord "extends" then do
      let parent ← withIn (rec .access)
      let types ← if ← typed then typeArguments? rec else pure .absent
      pure (parent, types)
    else pure (.absent, .absent)
  let interfaces ← if ← typed <&&> eatWord "implements" then heritages rec else pure []
  expectMark .openBrace
  let members ← collect do
    let _ ← collect (do if ← eatMark .semicolon then return some () else return none)
    if (← isMark .closeBrace) || (← atEnd) then return none
    else return some (← classMember rec)
  expectMark .closeBrace
  let body ← node (.classBody isAbstract) classStart
    [.group decorators, .group members, parent, typeParams, parentTypes, .group interfaces]
  return (name, body)

def classExpression (rec : Productions) (first : Nat) (decorators : List Tree) : Parser Tree := do
  let (name, body) ← classRest rec false true decorators
  node .classExpression first [name, body]

def classDeclaration (rec : Productions) (first : Nat) (isAbstract nameless declared : Bool)
    (decorators : List Tree) : Parser Tree := do
  let (name, body) ← classRest rec isAbstract nameless decorators
  node (.classDeclaration declared) first [name, body]

end Phrasebook.Script.Grammar
