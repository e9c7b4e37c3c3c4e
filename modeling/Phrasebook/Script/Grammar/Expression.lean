import Phrasebook.Script.Grammar.Class
import Phrasebook.Script.Grammar.Access
import Phrasebook.Script.Grammar.Target

/-!
Expressions.
-/

namespace Phrasebook.Script.Grammar

open Phrasebook.Script.Parser

def isArrow : Tree → Bool
  | .node (.arrow _) _ _ => true
  | _ => false

def liftTree (result : Except SyntaxError Tree) : Parser Tree :=
  match result with
  | .ok tree => pure tree
  | .error e => throw e

def leaf (kind : Kind) : Parser Tree := do
  let first ← start
  advance
  node kind first []

/-- The operator that stands between two operands here, how tightly it binds, and the place behind
it. -/
def operator? : Parser (Option (Operator × Nat × Cursor)) := do
  let here ← lexeme
  match here.token with
  | .mark .greater =>
    let (mark, stop) := readGreater here.start
    return mark.precedence?.map fun p => (.mark mark, p, stop)
  | .mark mark => return mark.precedence?.map fun p => (.mark mark, p, here.stop)
  | .word "instanceof" false => return some (.word .instanceof, 7, here.stop)
  | .word "in" false =>
    return if (← read).allowIn then some (.word .isIn, 7, here.stop) else none
  | _ => return none

/-- The assignment operator that stands here, and the place behind it. -/
def assignmentOperator? : Parser (Option (Mark × Cursor)) := do
  let here ← lexeme
  let (mark, stop) ← match here.token with
    | .mark .greater => pure (readGreater here.start)
    | .mark mark => pure (mark, here.stop)
    | _ => return none
  return if mark.isAssignment then some (mark, stop) else none

/-- Goes on behind a left side, if an assignment operator follows. -/
def assignmentRest (rec : Productions) (first : Nat) (left : Tree) : Parser Tree := do
  match ← assignmentOperator? with
  | none => return left
  | some (mark, stop) =>
    let target ← liftTree (left.asTarget mark)
    resumeAt stop
    let right ← rec .assignment
    node (.assignment mark) first [target, right]

/-- Operands joined by binary operators. Where the first operand is missing but an operator follows,
an invalid one takes its place. -/
def binary (rec : Productions) : Parser Tree := do
  let first ← start
  let left ← try rec .unary catch e =>
    if (← operator?).isSome then pure (.node .invalid ⟨first, first⟩ []) else throw e
  if isArrow left then return left else rec (.operators left 0)

def isUnaryPart : Kind → Bool
  | .unary _ | .await => true
  | _ => false

/-- One binary operator behind `left`, if one follows that binds more tightly than the bound. -/
def operatorStep (rec : Productions) (bound : Nat) (left : Tree) : Parser (Option Tree) := do
  let first := left.span.start
  if (← typed) && !(← afterBreak) && bound < 7 then
    if ← eatWord "as" then
      if ← isWord "const" then
        let type ← leaf (.keywordType "const")
        return some (← node (.typeCast "as") first [left, type])
      let type ← rec .type
      return some (← node (.typeCast "as") first [left, type])
    if ← eatWord "satisfies" then
      let type ← rec .type
      return some (← node (.typeCast "satisfies") first [left, type])
  match ← operator? with
  | none => return none
  | some (operator, precedence, stop) =>
    if precedence ≤ bound then return none
    if operator == .mark .power && isUnaryPart left.kind then unexpected
    resumeAt stop
    let operand ← rec .unary
    let right ← rec
      (.operators operand (if operator == .mark .power then precedence - 1 else precedence))
    return some (← node (.binary operator) first [left, right])

def operators (rec : Productions) (left : Tree) (bound : Nat) : Parser Tree :=
  loop (operatorStep rec bound) left

def unaryOperator? : Token → Option Operator
  | .mark .plus => some (.mark .plus)
  | .mark .minus => some (.mark .minus)
  | .mark .bitNot => some (.mark .bitNot)
  | .mark .negate => some (.mark .negate)
  | .word "delete" false => some (.word .delete)
  | .word "void" false => some (.word .void)
  | .word "typeof" false => some (.word .typeof)
  | _ => none

def updateOperator? : Token → Option Mark
  | .mark .increment => some .increment
  | .mark .decrement => some .decrement
  | _ => none

/-- `await`, or an identifier of this name where nothing follows that could be awaited. -/
def awaitExpression (rec : Productions) : Parser Tree := do
  let first ← start
  advance
  if ← isMark .star then unexpected
  if !(← read).async && (← isOneOf [.closeParen, .closeBracket, .semicolon, .comma]) then
    node (.identifier "await") first []
  else
    let operand ← rec .unary
    node .await first [operand]

/-- `<T>x`. -/
def typeAssertion (rec : Productions) : Parser Tree := do
  let first ← start
  openAngle
  let type ← if ← isWord "const" then leaf (.keywordType "const") else rec .type
  expectMark .greater
  let operand ← rec .unary
  node (.typeCast "") first [operand, type]

/-- An operand, with an increment or a decrement behind it on the same line. -/
def updateFrom (first : Nat) (operand : Tree) : Parser Tree := do
  if isArrow operand || (← afterBreak) then return operand
  match updateOperator? (← token) with
  | some mark => advance; node (.update mark false) first [operand]
  | none => return operand

def unary (rec : Productions) : Parser Tree := do
  let first ← start
  let current ← token
  if !(← markup) && (← typed) && (← isMark .less) then
    typeAssertion rec
  else if let some mark := updateOperator? current then
    advance
    let operand ← rec .unary
    node (.update mark true) first [operand]
  else if let some operator := unaryOperator? current then
    advance
    let operand ← try rec .unary catch _ => pure (.node .invalid ⟨first, first⟩ [])
    node (.unary operator) first [operand]
  else if ← isWord "await" then
    awaitExpression rec
  else
    let operand ← rec .access
    updateFrom first operand

/-- What stands in parentheses before it is known whether they hold parameters. -/
inductive ParenItem
  | expression (tree : Tree)
  | pattern (tree : Tree)

def ParenItem.tree : ParenItem → Tree
  | .expression tree | .pattern tree => tree

def ParenItem.asParameter : ParenItem → Except SyntaxError Tree
  | .pattern tree => .ok tree
  | .expression (.node .spread span [inner]) => do
    let inner ← inner.asPattern .parameter
    return .node .rest span [inner, .absent]
  | .expression tree => tree.asPattern .parameter

def ParenItem.isPattern : ParenItem → Bool
  | .pattern _ => true
  | .expression _ => false

/-- An arrow function from its body on. -/
def arrowRest (rec : Productions) (first : Nat) (async : Bool) (items typeParams type : Tree) :
    Parser Tree := do
  let body ← arrowBody rec async
  node (.arrow async) first [items, body, typeParams, type]

def asParameters (items : List ParenItem) : Parser Tree :=
  match items.mapM ParenItem.asParameter with
  | .ok trees => pure (.group trees)
  | .error e => throw e

/-- Whether a question mark here makes a parameter optional. -/
def atOptionalMark : Parser Bool := do
  if ← isMark .question then
    let next := (← peek).token
    return [Mark.comma, .colon, .closeParen, .assign].any (isMarkToken · next)
  else return false

/-- What a typed item is before a question mark or a colon: a name or a pattern, behind dots if it
spreads, or any expression. -/
def parenHead (rec : Productions) (first : Nat) (spreads : Bool) : Parser Tree := do
  let plain ← if spreads then do pure (isVariableToken (← peek).token) else atVariable
  if plain then
    if ← eatMark .dots then
      let inner ← binary rec
      node .spread first [inner]
    else
      let itemStart ← start
      let left ← withReader ({ · with arrowAt := some itemStart }) (binary rec)
      assignmentRest rec first left
  else spreadOrExpression rec

/-- A parameter with a type, or one that may be left out. -/
def typedParameter (rec : Productions) (first : Nat) (head : Tree) (optional : Bool) :
    Parser ParenItem := do
  let target ← liftTree (ParenItem.expression head).asParameter
  if target.kind == .invalid || target.kind == .withDefault then fail .badParameter first
  let type ← annotation? rec
  let target := withType target optional type
  if ← eatMark .assign then
    let value ← rec .assignment
    return .pattern (← node .withDefault first [target, value])
  return .pattern target

/-- The typed reading of an item: an expression in which a question mark or a colon may belong to a
parameter. -/
def typedParenItem (rec : Productions) : Parser ParenItem := do
  let first ← start
  let _ ← collect (modifier? ["public", "private", "protected", "readonly"])
  let spreads ← isMark .dots
  let head ← parenHead rec first spreads
  let optional ← atOptionalMark
  if optional then
    advance
    unless head.kind matches .identifier _ do fail .badParameter first
  let head ← if ← pure !(optional || spreads) <&&> eatMark .question then do
      let consequent ← withReader ({ · with inBranch := true, colonEnds := true }) (rec .assignment)
      expectMark .colon
      let alternative ← withReader
          ({ · with inBranch := true, colonEnds := false }) (rec .assignment)
      node .conditional first [head, consequent, alternative]
    else pure head
  if optional || (← isMark .colon) then typedParameter rec first head optional
  else return .expression head

def parenItem (rec : Productions) : Parser ParenItem := do
  if ← typed then typedParenItem rec
  else return .expression (← spreadOrExpression rec)

/-- Inside a branch of a conditional expression the colon behind parentheses is a result type only
if an arrow function comes out whole. -/
def branchArrow? (rec : Productions) (first : Nat) (async : Bool) (items : List ParenItem) :
    Parser (Option Tree) := do
  if (← typed) && (← read).inBranch && (← isMark .colon) then
    attempt do
      advance
      let type ← resultType rec
      expectMark .arrow
      let parameters ← asParameters items
      let tree ← arrowRest rec first async parameters .absent type
      if (← read).colonEnds && !(← isOneOf [.colon, .semicolon]) then return none
      return some tree
  else return none

/-- An arrow function with a block goes on as an operand if a binary operator follows. -/
def continueArrow (rec : Productions) (tree : Tree) : Parser Tree := do
  match tree with
  | .node (.arrow _) _ [_, .node .block _ _, _, _] =>
    if (← operator?).isSome then rec (.operators tree 0) else return tree
  | _ => return tree

def parenExpression (first : Nat) (items : List ParenItem) : Parser Tree := do
  let trees ← items.mapM fun
    | .expression (.node .spread span _) => fail .strayRest span.start
    | .expression tree => pure tree
    | .pattern tree => fail .badArrow tree.span.start
  match trees with
  | [] => fail .emptyParens first
  | [tree] => node .parens first [tree]
  | tree :: rest =>
    let stop := (rest.getLast?.getD tree).span.stop
    node .parens first [.node .sequence ⟨tree.span.start, stop⟩ (tree :: rest)]

/-- Parentheses: an expression, the parameters of an arrow function or, behind the word `async`, the
arguments of a call. -/
def parens (rec : Productions) (first : Nat) (async canArrow : Bool) : Parser Tree := do
  expectMark .openParen
  let items ← withIn (listUntil .closeParen (parenItem rec))
  if let some tree := ← branchArrow? rec first async items then return tree
  let type ← if (← typed) && !(← read).colonEnds && (← isMark .colon) then attempt do
      advance
      let type ← resultType rec
      if ← isMark .arrow then return some type else return none
    else pure none
  if items.any ParenItem.isPattern || type.isSome || (← isMark .arrow) then
    if ← afterBreak then fail .lineBreak (← start)
    if !canArrow then fail .badArrow (← start)
    expectMark .arrow
    let parameters ← asParameters items
    let tree ← arrowRest rec first async parameters .absent (type.getD .absent)
    continueArrow rec tree
  else if async then
    let callee := Tree.node (.identifier "async") ⟨first, first + 5⟩ []
    node (.call .plain) first [callee, .group (items.map ParenItem.tree), .absent]
  else parenExpression first items

/-- `async <T>(x) => …`. -/
def genericAsyncArrow? (rec : Productions) (first : Nat) : Parser (Option Tree) :=
  attempt do
    advance
    let typeParams ← typeParameters? rec
    let items ← parameters rec
    let type ← if ← eatMark .colon then resultType rec else pure .absent
    if ← afterBreak then return none
    unless ← eatMark .arrow do return none
    return some (← arrowRest rec first true items typeParams type)

/-- Whether this word may be the name of a variable. -/
def admitsVariable (w : String) (escaped : Bool) : Parser Bool := do
  if escaped || w == "let" then return true
  else if ← typed then return !isKeyword w && w != "await"
  else return isVariableWord w

/-- The name of a variable. -/
def variableName : Parser String := do
  match ← token with
  | .word w escaped => if ← admitsVariable w escaped then do advance; return w else unexpected
  | _ => unexpected

/-- A name, or an arrow function that begins with it. -/
def nameOrArrow (rec : Productions) (canArrow : Bool) : Parser Tree := do
  let first ← start
  let name ← variableName
  let tree ← node (.identifier name) first []
  if canArrow && name == "async" && !(← afterBreak) && (← atVariable) then
    if (← read).inForHead && (← isWord "of") && !isMarkToken .arrow (← peek).token then return tree
    let parameterStart ← start
    let parameter ← declaredName
    let target ← node (.binding parameter false) parameterStart [.absent]
    expectMark .arrow
    arrowRest rec first true (.group [target]) .absent .absent
  else if canArrow && !(← afterBreak) && (← isMark .arrow) then
    let target ← node (.binding name false) first [.absent]
    advance
    arrowRest rec first false (.group [target]) .absent .absent
  else return tree

def arrayLiteral (rec : Productions) : Parser Tree := do
  let first ← start
  expectMark .openBracket
  let elements ← inBrackets <| collect do
    if (← isMark .closeBracket) || (← atEnd) then return none
    let here ← start
    if ← eatMark .comma then return some (← node .hole here [])
    let element ← spreadOrExpression rec
    unless ← isMark .closeBracket do expectMark .comma
    return some element
  expectMark .closeBracket
  node .array first elements

def objectMethod (rec : Productions) (first : Nat) (key : Tree) (kind : Kind)
    (flags : FunctionFlags) : Parser Tree := do
  let function ← functionRest rec first flags
  node kind first [key, function]

/-- What follows a key alone: nothing more than a default, or the method whose first word it is. -/
def shorthandOrMethod (rec : Productions) (first : Nat) (key : Tree) : Parser Tree := do
  match key with
  | .node (.name name) _ _ =>
    let _ ← eatMark .question
    if ← eatMark .assign then
      let value ← rec .assignment
      node (.shorthandDefault name) first [value]
    else if ← isOneOf [.comma, .closeBrace] then node (.shorthand name) first []
    else match name with
    | "async" =>
      let generator ← eatMark .star
      let key ← propertyName rec
      objectMethod rec first key .method ⟨true, generator⟩
    | "get" =>
      let key ← propertyName rec
      objectMethod rec first key (.accessor .get) {}
    | "set" =>
      let key ← propertyName rec
      objectMethod rec first key (.accessor .set) {}
    | _ => unexpected
  | _ => unexpected

def objectProperty (rec : Productions) : Parser Tree := do
  let first ← start
  if ← eatMark .dots then
    let inner ← rec .assignment
    return ← node .spread first [inner]
  if ← eatMark .star then
    let key ← propertyName rec
    return ← objectMethod rec first key .method { generator := true }
  if ← typed then
    let _ ← collect (modifier? ["public", "private", "protected", "readonly"])
  let key ← propertyName rec
  if ← eatMark .colon then
    let value ← rec .assignment
    return ← node .keyValue first [key, value]
  if ← isMark .openParen then return ← objectMethod rec first key .method {}
  if (← typed) && (← isMark .less) then return ← objectMethod rec first key .method {}
  shorthandOrMethod rec first key

def objectLiteral (rec : Productions) : Parser Tree := do
  let first ← start
  expectMark .openBrace
  let properties ← withIn (listUntil .closeBrace (objectProperty rec))
  node .object first properties

/-- A regular expression. Where it has no end, the slash is no division either. -/
def patternLiteral : Parser Tree := do
  let here := (← lexeme).start
  let body := here.drop 1
  match readPattern body.rest body.position with
  | .error e =>
    modify fun s => { s with lexeme.token := .malformed e }
    throw e
  | .ok stop =>
    resumeAt stop
    let source := here.rest.take (here.rest.length - stop.rest.length)
    node (.pattern (String.ofList source)) here.position []

def asyncOperand (rec : Productions) (first : Nat) (canArrow : Bool) : Parser Tree := do
  let next ← peek
  if !next.afterBreak && isPlainWord "function" next.token then
    advance
    return ← functionExpression rec first true
  if canArrow && (← typed) && isMarkToken .less next.token then
    if let some tree := ← genericAsyncArrow? rec first then return tree
  if canArrow && !next.afterBreak && isMarkToken .openParen next.token then
    advance
    return ← parens rec first true canArrow
  nameOrArrow rec canArrow

/-- An operand without anything behind it. -/
def primary (rec : Productions) : Parser Tree := do
  let first ← start
  let canArrow := (← read).arrowAt == some first
  match ← token with
  | .string value => leaf (.string value)
  | .number value => leaf (.number value)
  | .integer value => leaf (.integer value)
  | .privateWord name => leaf (.privateIdentifier name)
  | .mark .openBracket => arrayLiteral rec
  | .mark .openBrace => objectLiteral rec
  | .mark .openParen => parens rec first false canArrow
  | .mark .slash | .mark .slashAssign => patternLiteral
  | .mark .backtick => template rec false
  | .mark .atSign =>
    let decorators ← decorators rec
    if ← isWord "class" then classExpression rec first decorators else nameOrArrow rec false
  | .word "this" false => leaf .this
  | .word "null" false => leaf .null
  | .word "true" false => leaf (.boolean true)
  | .word "false" false => leaf (.boolean false)
  | .word "function" false => functionExpression rec first false
  | .word "class" false => classExpression rec first []
  | .word "async" false => asyncOperand rec first canArrow
  | .word _ _ => nameOrArrow rec canArrow
  | _ => unexpected

/-- `import(…)` and `import.meta`. -/
def importExpression (rec : Productions) (noCall : Bool) : Parser Tree := do
  let first ← start
  advance
  if ← eatMark .dot then
    expectWord "meta"
    subscripts rec noCall false (← node .importMeta first [])
  else subscripts rec noCall false (← node .importCallee first [])

def typeArgumentsOfCall? (rec : Productions) : Parser (Option Tree) := do
  if (← typed) && (← atAngle) then attempt do
    let types ← typeArguments rec
    if ← isMark .openParen then return some types else return none
  else return none

def newExpression (rec : Productions) : Parser Tree := do
  let first ← start
  advance
  if ← eatMark .dot then
    expectWord "target"
    return ← subscripts rec true false (← node .newTarget first [])
  let inner ← rec .callee
  if isArrow inner then return inner
  if inChain inner then fail .unexpectedToken first
  let types ← typeArgumentsOfCall? rec
  if ← isMark .openParen then
    let arguments ← callArguments rec true
    subscripts rec true false (← node .new first [inner, arguments, types.getD .absent])
  else node .new first [inner, .absent, .absent]

/-- An operand with what follows it, up to the first call. -/
def callee (rec : Productions) : Parser Tree := do
  if ← isWord "new" then newExpression rec
  else if ← isWord "super" then subscripts rec true false (← leaf .super)
  else if ← isWord "import" then importExpression rec true
  else
    let operand ← primary rec
    if isArrow operand then return operand else subscripts rec true false operand

/-- What follows an operand, from the first call on. -/
def accessFrom (rec : Productions) (first : Nat) (head : Tree) : Parser Tree := do
  if isArrow head then return head
  let types ← typeArgumentsOfCall? rec
  match head with
  | .node .new _ [_, .node .absent _ _, _] =>
    if types.isSome then unexpected else return head
  | _ =>
    if ← isMark .openParen then
      let arguments ← callArguments rec true
      let link := if inChain head then Link.continued else .plain
      let tree ← node (.call link) first [head, arguments, types.getD .absent]
      subscripts rec false false tree
    else return head

/-- An operand with all that follows it. -/
def access (rec : Productions) : Parser Tree := do
  let first ← start
  if (← markup) && (← isMark .less) then
    advance
    let tree ← rec (.element first)
    advance
    return tree
  if ← isWord "super" then
    return ← subscripts rec false false (← leaf .super)
  if ← isWord "import" then
    return ← importExpression rec false
  let head ← callee rec
  accessFrom rec first head

/-- A test, with two branches behind it if a question mark follows. -/
def conditionalFrom (rec : Productions) (first : Nat) (test : Tree) : Parser Tree := do
  if isArrow test then return test
  if ← eatMark .question then
    let consequent ← withReader ({ · with inBranch := true, allowIn := true, colonEnds := true })
      (rec .assignment)
    expectMark .colon
    let alternative ← withReader ({ · with inBranch := true, colonEnds := false }) (rec .assignment)
    node .conditional first [test, consequent, alternative]
  else return test

def conditional (rec : Productions) : Parser Tree := do
  let first ← start
  let test ← binary rec
  conditionalFrom rec first test

def yieldExpression (rec : Productions) : Parser Tree := do
  let first ← start
  advance
  if ← atSemicolon then return ← node (.yield false) first []
  let delegate ← eatMark .star
  if delegate || startsExpression (← token) then
    let operand ← rec .assignment
    node (.yield delegate) first [operand]
  else node (.yield false) first []

/-- `<T>(x) => …`. -/
def genericArrow? (rec : Productions) : Parser (Option Tree) := do
  let first ← start
  if (← typed) && (← isMark .less) && isWordToken (← peek).token then
    withReader ({ · with colonEnds := false }) <| attempt do
      let typeParams ← typeParameters rec
      match ← rec .assignment with
      | .node (.arrow async) span [items, body, _, type] =>
        return some (.node (.arrow async) ⟨first, span.stop⟩ [items, body, typeParams, type])
      | _ => return none
  else return none

/-- Whether an expression of this kind is never the left side of an assignment. -/
def isFinished : Kind → Bool
  | .arrow _ | .conditional | .binary _ | .unary _ | .update _ _ => true
  | _ => false

/-- An expression without a comma. -/
def assignment (rec : Productions) : Parser Tree := do
  if let some tree := ← genericArrow? rec then return tree
  if (← read).generator && (← isWord "yield") then return ← yieldExpression rec
  let first ← start
  let tree ← withReader ({ · with arrowAt := some first }) (conditional rec)
  if isFinished tree.kind then return tree else assignmentRest rec first tree

end Phrasebook.Script.Grammar
