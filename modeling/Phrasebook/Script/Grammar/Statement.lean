import Phrasebook.Script.Grammar.Expression

/-!
Statements and declarations. Variables are declared in every dialect; enumerations, interfaces, type
names and namespaces in the typed ones.
-/

namespace Phrasebook.Script.Grammar

open Phrasebook.Script.Parser

/-- A variable with its initial value. A pattern needs one, unless a loop or an outside declaration
gives it. -/
def declarator (rec : Productions) (kind : VariableKind) (inLoop : Bool) : Parser Tree := do
  let first ← start
  if kind != .var && (← isWord "let") then unexpected
  let target ← rec .binding
  let isName := match target with
    | .node (.binding _ _) _ _ => true
    | _ => false
  let definite ← if (← typed) && isName then eatMark .negate else pure false
  let type ← annotation? rec
  let target := if type.kind == .absent then target else withType target false type
  let loops ← if ← isWord "in" then pure true else isWord "of"
  let value ← do
    if inLoop && loops then pure .absent
    else if ← eatMark .assign then rec .assignment
    else if isName || kind == .const && !inLoop || (← read).ambient then pure .absent
    else fail .missingInitializer first
  node (.declarator definite) first [target, value]

/-- Reads on to the next place where a statement may end. -/
def skipStatement (rec : Productions) : Parser Unit := do
  let _ ← try some <$> expression rec catch _ => pure none
  loop (fun _ => do
    if ← eatSemicolon then return none
    match ← token with
    | .malformed _ => return none
    | _ =>
      advance
      match ← token with
      | .malformed _ => return none
      | _ => return some ()) ()

/-- Variables with the word before them. Where the semicolon is missing, the rest of the statement
is passed over. -/
def variableList (rec : Productions) (first : Nat) (inLoop : Bool) : Parser Tree := do
  let kind ← match ← token with
    | .word "var" _ => pure VariableKind.var
    | .word "let" _ => pure VariableKind.let
    | .word "const" _ => pure VariableKind.const
    | _ => unexpected
  advance
  let next : Parser (Option Tree) := do
    if (← isMark .semicolon) || (← atEnd) then return none
    else return some (← (if inLoop && kind == .var then id else withIn)
      (declarator rec kind inLoop))
  let head ← next
  let more ← if head.isNone then pure [] else collect do
    if ← eatMark .comma then next else return none
  unless ← pure inLoop <||> eatSemicolon do skipStatement rec
  node (.variableList kind (← read).ambient) first (head.toList ++ more)

/-- Resources: `using` and, on the same line, variables. No semicolon belongs to them. -/
def resourceList? (rec : Productions) (first : Nat) : Parser (Option Tree) := do
  unless ← wordBefore "using" isVariableToken do return none
  advance
  let next : Parser (Option Tree) := do
    if (← isMark .semicolon) || (← atEnd) then return none
    else return some (← withIn (declarator rec .var false))
  let head ← next
  let more ← if head.isNone then pure [] else collect do
    if ← eatMark .comma then next else return none
  return some (← node (.variableList .using false) first (head.toList ++ more))

/-- Whether variables are declared here. -/
def atVariables : Parser Bool := do
  match ← token with
  | .word "var" false | .word "const" false => return true
  | .word "let" false => return followsLet (← peek).token
  | _ => return false

def enumMember (rec : Productions) : Parser Tree := do
  let first ← start
  let key ← propertyName rec
  let value ← if ← eatMark .assign then rec .assignment else pure .absent
  node .enumMember first [key, value]

def enumDeclaration (rec : Productions) (first : Nat) (constant : Bool) : Parser Tree := do
  let name ← declaredName
  expectMark .openBrace
  let members ← withIn (listUntil .closeBrace (enumMember rec))
  node (.enumDeclaration name constant (← read).ambient) first [.group members]

def interfaceDeclaration (rec : Productions) (first : Nat) : Parser Tree := do
  let name ← anyWord
  let typeParams ← typeParameters? rec
  let parents ← if ← eatWord "extends" then heritages rec else pure []
  let members ← typeMembers rec
  node (.interface name (← read).ambient) first [typeParams, .group parents, .group members]

def typeAlias (rec : Productions) (first : Nat) : Parser Tree := do
  let name ← anyWord
  let typeParams ← typeParameters? rec
  expectMark .assign
  let type ← rec .type
  expectSemicolon
  node (.typeAlias name (← read).ambient) first [typeParams, type]

/-- Items of a module in braces. -/
def moduleBlock (rec : Productions) : Parser Tree := do
  let first ← start
  expectMark .openBrace
  let items ← collect do
    if (← isMark .closeBrace) || (← atEnd) then return none
    else return some (← rec .moduleItem)
  let _ ← eatMark .closeBrace
  node .block first items

/-- A namespace from its name on, or a module from the text that names it on. -/
def moduleDeclaration (rec : Productions) (first : Nat) : Parser Tree := do
  let nameStart ← start
  match ← token with
  | .string value =>
    advance
    let name ← node (.moduleSource value) nameStart []
    let body ← if ← isMark .openBrace then moduleBlock rec else do
      expectSemicolon
      pure .absent
    node (.moduleDeclaration false (← read).ambient) first [name, body]
  | _ =>
    let name ← entityName
    let body ← moduleBlock rec
    node (.moduleDeclaration false (← read).ambient) first [name, body]

def globalDeclaration (rec : Productions) (first : Nat) (name : Tree) : Parser Tree := do
  let body ← if ← isMark .openBrace then moduleBlock rec else do
    expectSemicolon
    pure .absent
  node (.moduleDeclaration true (← read).ambient) first [name, body]

/-- A declaration that the typed dialects begin with this word. The word has been read, unless it is
`current`. -/
def typedDeclaration? (rec : Productions) (first : Nat) (word : String) (current : Bool)
    (decorators : List Tree) : Parser (Option Tree) := do
  let read : Parser Unit := if current then advance else pure ()
  let sameLine := !(← afterBreak)
  match word with
  | "abstract" =>
    if current || (sameLine && (← isWord "class")) then
      read
      return some (← classDeclaration rec first true false (← MonadReader.read).ambient decorators)
    else return none
  | "enum" =>
    if current || (← atVariable) then
      read
      return some (← enumDeclaration rec first false)
    else return none
  | "interface" =>
    if current || (← atVariable) then
      read
      return some (← interfaceDeclaration rec first)
    else return none
  | "module" =>
    if !current && !sameLine then return none
    read
    let isText ← match ← token with
      | .string _ => pure true
      | _ => pure false
    if current || isText || (← atVariable) then return some (← moduleDeclaration rec first)
    else return none
  | "namespace" =>
    if current || (← atVariable) then
      read
      return some (← moduleDeclaration rec first)
    else return none
  | "type" =>
    if current || (sameLine && (← atVariable)) then
      read
      return some (← typeAlias rec first)
    else return none
  | _ => return none

/-- What stands behind the word `declare`. -/
def ambientDeclaration? (rec : Productions) (first : Nat) (decorators : List Tree) :
    Parser (Option Tree) :=
  withReader ({ · with ambient := true }) do
    match ← token with
    | .word "function" false => return some (← functionDeclaration rec first false false true)
    | .word "class" false => return some (← classDeclaration rec first false false true decorators)
    | .word "const" false | .word "var" false | .word "let" false =>
      if (← isWord "const") && isPlainWord "enum" (← peek).token then
        advance
        advance
        return some (← enumDeclaration rec first true)
      return some (← variableList rec first false)
    | .word "global" false =>
      let name ← entityName
      return some (← globalDeclaration rec first name)
    | .word "async" false =>
      if isPlainWord "function" (← peek).token then
        advance
        return some (← functionDeclaration rec first true false true)
      return none
    | .word w false => typedDeclaration? rec first w true decorators
    | _ => return none

/-- A declaration behind an identifier that turned out to be its first word. -/
def declarationBehind? (rec : Productions) (first : Nat) (word : Tree) (decorators : List Tree) :
    Parser (Option Tree) := do
  match word with
  | .node (.identifier "declare") _ _ => ambientDeclaration? rec first decorators
  | .node (.identifier "global") _ _ =>
    if ← isMark .openBrace then return some (← globalDeclaration rec first word) else return none
  | .node (.identifier name) _ _ => typedDeclaration? rec first name false decorators
  | _ => return none

def parenthesized (rec : Productions) : Parser Tree := do
  expectMark .openParen
  let inner ← withIn (expression rec)
  expectMark .closeParen
  return inner

def labelPart? : Parser (List Tree) := do
  if ← eatSemicolon then return []
  let first ← start
  let name ← declaredName
  let label ← node (.identifier name) first []
  expectSemicolon
  return [label]

def ifRest (rec : Productions) (first : Nat) : Parser Tree := do
  let test ← parenthesized rec
  let consequent ← rec (.statement false)
  let alternative ← if ← eatWord "else" then rec (.statement false) else pure .absent
  node .ifStatement first [test, consequent, alternative]

def doRest (rec : Productions) (first : Nat) : Parser Tree := do
  let body ← rec (.statement false)
  expectWord "while"
  let test ← parenthesized rec
  let _ ← eatSemicolon
  node .doWhile first [test, body]

def switchRest (rec : Productions) (first : Nat) : Parser Tree := do
  let subject ← parenthesized rec
  expectMark .openBrace
  let cases ← collect do
    let caseStart ← start
    let test? ← do
      if ← eatWord "case" then pure (some (← withIn (expression rec)))
      else if ← eatWord "default" then pure (some .absent)
      else pure none
    let some test := test? | return none
    expectMark .colon
    let statements ← collect do
      if (← isMark .closeBrace) || (← isWord "case") || (← isWord "default") || (← atEnd) then
        return none
      else return some (← rec (.statement true))
    return some (← node .switchCase caseStart [test, .group statements])
  expectMark .closeBrace
  node .switchStatement first [subject, .group cases]

def catchClause? (rec : Productions) : Parser Tree := do
  let first ← start
  unless ← eatWord "catch" do return .absent
  let parameter ← if ← eatMark .openParen then do
      let target ← rec .binding
      let type ← annotation? rec
      expectMark .closeParen
      pure (if type.kind == .absent then target else withType target false type)
    else pure .absent
  let body ← block rec
  node .catchClause first [parameter, body]

def finalizer? (rec : Productions) : Parser Tree := do
  if ← eatWord "finally" then block rec else return .absent

def tryRest (rec : Productions) (first : Nat) : Parser Tree := do
  let body ← block rec
  let handler ← catchClause? rec
  let finalizer ← finalizer? rec
  node .tryStatement first [body, handler, finalizer]

/-- A `catch` or `finally` without its `try` is passed over. -/
def strayHandler (rec : Productions) (first : Nat) : Parser Tree := do
  let _ ← try catchClause? rec catch _ => pure .absent
  let _ ← try finalizer? rec catch _ => pure .absent
  node .expressionStatement first [.node .invalid ⟨first, first⟩ []]

inductive LoopHead
  | counted (parts : List Tree)
  | each (kind : Bool → Kind) (isOf : Bool) (left right : Tree)

def eachHead (rec : Productions) (left : Tree) : Parser LoopHead := do
  if ← eatWord "of" then
    let right ← withIn (rec .assignment)
    return .each .forOf true left right
  else
    expectWord "in"
    let right ← withIn (expression rec)
    return .each (fun _ => .forIn) false left right

def countedHead (rec : Productions) (init : Tree) : Parser LoopHead := do
  let test ← if ← eatMark .semicolon then pure .absent
    else do
      let test ← withIn (expression rec)
      expectMark .semicolon
      pure test
  let update ← if ← isMark .closeParen then pure .absent else withIn (expression rec)
  return .counted [init, test, update]

def atEach : Parser Bool := do
  if ← isWord "of" then return true else isWord "in"

/-- In the typed dialects the variable of a loop may be a resource. -/
def loopResource? (rec : Productions) (first : Nat) : Parser (Option Tree) := do
  unless ← typed do return none
  attempt do
    let _ ← eatWord "await"
    unless ← wordBefore "using" isVariableToken do return none
    advance
    if ← isWord "of" then return none
    let inner ← start
    let target ← rec .binding
    let part ← node (.declarator false) inner [target, .absent]
    return some (← node (.variableList .using false) first [part])

def loopHead (rec : Productions) : Parser LoopHead := do
  let first ← start
  if let some left ← loopResource? rec first then eachHead rec left
  else if ← atVariables then
    let left ← variableList rec first true
    if ← atEach then eachHead rec left
    else
      expectMark .semicolon
      countedHead rec left
  else if ← eatMark .semicolon then countedHead rec .absent
  else
    let init ← withReader ({ · with allowIn := false }) (expression rec)
    if ← atEach then
      match init.asPattern .assigned with
      | .ok left => eachHead rec left
      | .error e => throw e
    else
      expectMark .semicolon
      countedHead rec init

def forRest (rec : Productions) (first : Nat) : Parser Tree := do
  let await ← eatWord "await"
  expectMark .openParen
  let head ← withReader ({ · with inForHead := true }) (loopHead rec)
  expectMark .closeParen
  let body ← rec (.statement false)
  match head with
  | .counted parts =>
    if await then fail .unexpectedToken first
    node .forStatement first (parts ++ [body])
  | .each kind isOf left right =>
    if await && !isOf then fail .unexpectedToken first
    node (kind await) first [left, right, body]

/-- The end of an expression statement. In front of a binary operator the semicolon may be missing;
the operands then belong to the same statement. -/
def expressionEnd (rec : Productions) (first : Nat) (tree : Tree) : Parser Tree := do
  if ← eatSemicolon then node .expressionStatement first [tree]
  else if (← operator?).isSome then
    let tree ← withIn (rec (.operators tree 0))
    node .expressionStatement first [tree]
  else unexpected

def expressionStatement (rec : Productions) (first : Nat) (decorators : List Tree) :
    Parser Tree := do
  let tree ← withIn (expression rec)
  let name? := match tree with
    | .node (.identifier name) _ _ => some name
    | _ => none
  let declaration ← if name?.isSome && (← typed) then declarationBehind? rec first tree decorators
    else pure none
  if let some declaration := declaration then return declaration
  if ← pure name?.isSome <&&> eatMark .colon then
    let body ← rec (.statement (← isWord "function"))
    node .labeled first [tree, body]
  else expressionEnd rec first tree

/-- A statement that begins with `await`: an operand and binary operators. -/
def awaitStatement (rec : Productions) (first : Nat) : Parser Tree := do
  let resources ← attempt do
    advance
    resourceList? rec first
  if let some tree := resources then return tree
  let operand ← awaitExpression rec
  let tree ← withIn (rec (.operators operand 0))
  let _ ← eatSemicolon
  node .expressionStatement first [tree]

/-- A statement, its decorators having been read. -/
def statementRest (rec : Productions) (first : Nat) (declarations : Bool) (decorators : List Tree) :
    Parser Tree := do
  match ← token with
  | .mark .openBrace => block rec
  | .mark .semicolon =>
    advance
    node .empty first []
  | .word "break" false =>
    advance
    let label ← labelPart?
    node .breakStatement first label
  | .word "continue" false =>
    advance
    let label ← labelPart?
    node .continueStatement first label
  | .word "debugger" false =>
    advance
    expectSemicolon
    node .debugger first []
  | .word "do" false => advance; doRest rec first
  | .word "for" false => advance; forRest rec first
  | .word "function" false => functionDeclaration rec first false false (← read).ambient
  | .word "class" false => classDeclaration rec first false false (← read).ambient decorators
  | .word "if" false => advance; ifRest rec first
  | .word "return" false =>
    advance
    let value ← if ← atSemicolon then pure .absent else withIn (expression rec)
    expectSemicolon
    node .returnStatement first [value]
  | .word "switch" false => advance; switchRest rec first
  | .word "throw" false =>
    advance
    if ← afterBreak then fail .lineBreak (← start)
    let value ← withIn (expression rec)
    expectSemicolon
    node .throwStatement first [value]
  | .word "catch" false | .word "finally" false => strayHandler rec first
  | .word "try" false => advance; tryRest rec first
  | .word "with" false =>
    advance
    let object ← parenthesized rec
    let body ← rec (.statement false)
    node .withStatement first [object, body]
  | .word "while" false =>
    advance
    let test ← parenthesized rec
    let body ← rec (.statement false)
    node .whileStatement first [test, body]
  | .word "await" false =>
    if declarations then awaitStatement rec first else expressionStatement rec first decorators
  | .word "const" false =>
    if (← typed) && isPlainWord "enum" (← peek).token then
      advance
      advance
      enumDeclaration rec first true
    else if declarations then variableList rec first false
    else unexpected
  | .word "var" false => variableList rec first false
  | .word "let" false =>
    if declarations && (← atVariables) then variableList rec first false
    else expressionStatement rec first decorators
  | .word "using" false =>
    let resources ← if declarations then resourceList? rec first else pure none
    match resources with
    | some tree => return tree
    | none => expressionStatement rec first decorators
  | .word "async" false =>
    if ← wordBefore "async" (isPlainWord "function") then
      advance
      functionDeclaration rec first true false (← read).ambient
    else expressionStatement rec first decorators
  | _ => expressionStatement rec first decorators

/-- Whether an import here is an expression. -/
def atImportExpression : Parser Bool := do
  if ← isWord "import" then
    let next := (← peek).token
    return isMarkToken .openParen next || isMarkToken .dot next
  else return false

/-- A statement that is an import expression; its semicolon may be missing. -/
def importStatement (rec : Productions) (first : Nat) : Parser Tree := do
  let tree ← withIn (expression rec)
  let _ ← eatSemicolon
  node .expressionStatement first [tree]

/-- In a statement no conditional expression around it matters. -/
def asStatement (p : Parser α) : Parser α :=
  withReader ({ · with colonEnds := false }) p

/-- A statement or, if the flag admits it, a declaration. -/
def statement (rec : Productions) (declarations : Bool) : Parser Tree := asStatement do
  let first ← start
  let decorators ← decorators rec
  if ← atImportExpression then importStatement rec first
  else if (← isWord "import") || (← isWord "export") then fail .misplacedModuleItem first
  else statementRest rec first declarations decorators

end Phrasebook.Script.Grammar
