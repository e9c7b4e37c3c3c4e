import Phrasebook.Script.Grammar.Statement

/-!
Items of a module: imports, exports and statements.
-/

namespace Phrasebook.Script.Grammar

open Phrasebook.Script.Parser

/-- Import attributes, which plain scripts do not have. -/
def attributes? (rec : Productions) : Parser Tree := do
  if (← typed) && !(← afterBreak) && ((← isWord "with") || (← isWord "assert")) then
    advance
    if ← isMark .openBrace then rec .access else unexpected
  else return .absent

/-- The text that names a module. -/
def moduleSource : Parser Tree := do
  let first ← start
  match ← token with
  | .string value => advance; node (.moduleSource value) first []
  | _ => unexpected

/-- The source behind `from`, with its attributes and its semicolon. -/
def fromClause (rec : Productions) : Parser (Tree × Tree) := do
  expectWord "from"
  let source ← moduleSource
  let attributes ← attributes? rec
  expectSemicolon
  return (source, attributes)

/-- A name in an import or export list: a word or a text. -/
def listedName : Parser Tree := do
  let first ← start
  match ← token with
  | .word w _ => advance; node (.name w) first []
  | .string value => advance; node (.stringName value) first []
  | _ => unexpected

def isWordNext : Parser Bool := return isWordToken (← token)

/-- The word `type` in a list, where it is not itself a listed name. -/
def listedType : Parser Bool := do
  unless (← typed) && (← isWord "type") do return false
  let next := (← peek).token
  if isPlainWord "as" next then
    ahead do
      advance
      advance
      unless ← isWordNext do return true
      if ← eatWord "as" then isWordNext else return false
  else match next with
  | .word _ _ | .string _ => return true
  | _ => return false

def importSpecifier : Parser Tree := do
  let first ← start
  let typeOnly ← listedType
  if typeOnly then advance
  let outer ← listedName
  if ← eatWord "as" then
    let name ← declaredName
    node (.importNamed name typeOnly) first [outer]
  else match outer with
  | .node (.name name) span _ =>
    if isKeyword name then fail .unexpectedToken span.start
    node (.importNamed name typeOnly) first [.absent]
  | _ => unexpected

def importEquals (first : Nat) (name : String) (exported typeOnly : Bool) :
    Parser Tree := do
  expectMark .assign
  let isModule := (← isWord "require") && isMarkToken .openParen (← peek).token
  let target ← if isModule then do
      advance
      expectMark .openParen
      let source ← moduleSource
      expectMark .closeParen
      pure source
    else entityName
  expectSemicolon
  node (.importEquals name exported typeOnly) first [target]

/-- The names of an import in braces or behind a star. -/
def importList : Parser (List Tree) := do
  let first ← start
  if ← eatMark .star then
    expectWord "as"
    let name ← declaredName
    return [← node (.importNamespace name) first []]
  else if ← eatMark .openBrace then listUntil .closeBrace importSpecifier
  else return []

/-- Whether the word `type` that has just been read belongs to the import and is not its name. -/
def marksTypeImport : Parser Bool := do
  if ← isOneOf [.star, .openBrace] then return true
  unless ← atVariable do return false
  if ← isWord "from" then
    let next := (← peek).token
    return isPlainWord "from" next || isMarkToken .assign next
  else return true

def importRest (rec : Productions) (first : Nat) : Parser Tree := do
  match ← token with
  | .string _ =>
    let source ← moduleSource
    let attributes ← attributes? rec
    expectSemicolon
    node (.importDeclaration false) first [.group [], source, attributes]
  | _ =>
    let typeOnly ← if (← typed) && (← isWord "type") then do
        let marks ← ahead do
          advance
          marksTypeImport
        if marks then advance
        pure marks
      else pure false
    let nameStart ← start
    let default? ← if ← atVariable then some <$> declaredName else pure none
    if let some name := default? then
      if (← typed) && (← isMark .assign) then return ← importEquals first name false typeOnly
    let defaults ← match default? with
      | some name => do
        let specifier ← node (.importDefault name) nameStart []
        unless ← isWord "from" do expectMark .comma
        pure [specifier]
      | none => pure []
    let listed ← importList
    let (source, attributes) ← fromClause rec
    node (.importDeclaration typeOnly) first [.group (defaults ++ listed), source, attributes]

def exportSpecifier : Parser Tree := do
  let first ← start
  let typeOnly ← listedType
  if typeOnly then advance
  let inner ← listedName
  let outer ← if ← eatWord "as" then listedName else pure .absent
  node (.exportSpecifier typeOnly) first [inner, outer]

/-- Exported names, with or without a module that they come from. -/
def exportList (rec : Productions) (first : Nat) (typeOnly : Bool) : Parser Tree := do
  let listStart ← start
  if ← eatMark .star then
    if ← eatWord "as" then
      let outer ← listedName
      let specifier ← node .exportNamespace listStart [outer]
      let (source, attributes) ← fromClause rec
      node (.exportNamed typeOnly) first [.group [specifier], source, attributes]
    else
      let (source, attributes) ← fromClause rec
      node (.exportAll typeOnly) first [source, attributes]
  else
    expectMark .openBrace
    let specifiers ← listUntil .closeBrace exportSpecifier
    if ← isWord "from" then
      let (source, attributes) ← fromClause rec
      node (.exportNamed typeOnly) first [.group specifiers, source, attributes]
    else
      let _ ← eatSemicolon
      node (.exportNamed typeOnly) first [.group specifiers, .absent, .absent]

/-- What stands behind `export default`. -/
def exportDefault (rec : Productions) (first : Nat) (decorators : List Tree) : Parser Tree := do
  let inner ← start
  let abstractClass ← if ← typed then wordBefore "abstract" (isPlainWord "class") else pure false
  let asyncFunction ← wordBefore "async" (isPlainWord "function")
  let own ← decorators? inner
  if abstractClass then
    advance
    let tree ← classDeclaration rec inner true true false decorators
    node .exportDefault first [tree]
  else if (← typed) && (← isWord "interface") then
    advance
    let tree ← interfaceDeclaration rec inner
    node .exportDefault first [tree]
  else if ← isWord "class" then
    let tree ← classDeclaration rec inner false true false (decorators ++ own)
    node .exportDefault first [tree]
  else if asyncFunction then
    advance
    let tree ← functionDeclaration rec inner true true false
    node .exportDefault first [tree]
  else if ← isWord "function" then
    let tree ← functionDeclaration rec inner false true false
    node .exportDefault first [tree]
  else
    let tree ← withIn (rec .assignment)
    expectSemicolon
    node .exportDefault first [tree]
where
  /-- Decorators of a class stand behind `default`, too. -/
  decorators? (_ : Nat) : Parser (List Tree) := do
    let found ← attempt do
      let found ← Grammar.decorators rec
      if !found.isEmpty && (← isWord "class") then return some found else return none
    return found.getD []

/-- An export that the typed dialects add. -/
def typedExport? (rec : Productions) (first : Nat) (decorators : List Tree) :
    Parser (Option Tree) := do
  unless ← typed do return none
  let inner ← start
  let ambient ← attempt do
    unless ← eatWord "declare" do return none
    ambientDeclaration? rec inner decorators
  if let some tree := ambient then return some (← node .exportDeclaration first [tree])
  let declared ← match ← token with
    | .word w false => attempt (typedDeclaration? rec inner w true decorators)
    | _ => pure none
  if let some tree := declared then return some (← node .exportDeclaration first [tree])
  if ← eatWord "import" then
    let typeOnly ← wordBefore "type" isVariableToken
    if typeOnly then advance
    let name ← anyWord
    return some (← importEquals first name true typeOnly)
  if ← eatMark .assign then
    let tree ← withIn (expression rec)
    expectSemicolon
    return some (← node .exportAssignment first [tree])
  if ← eatWord "as" then
    expectWord "namespace"
    let name ← declaredName
    expectSemicolon
    return some (← node (.exportAsNamespace name) first [])
  return none

def exportRest (rec : Productions) (first : Nat) (decorators : List Tree) : Parser Tree := do
  if let some tree := ← typedExport? rec first decorators then return tree
  let typeOnly ← if ← typed then eatWord "type" else pure false
  if ← pure !typeOnly <&&> eatWord "default" then return ← exportDefault rec first decorators
  let own ← Grammar.decorators rec
  let inner ← start
  if typeOnly then exportList rec first true
  else if ← isWord "class" then
    let tree ← classDeclaration rec inner false false false (decorators ++ own)
    node .exportDeclaration first [tree]
  else if ← wordBefore "async" (isPlainWord "function") then
    advance
    let tree ← functionDeclaration rec inner true false false
    node .exportDeclaration first [tree]
  else if ← isWord "function" then
    let tree ← functionDeclaration rec inner false false false
    node .exportDeclaration first [tree]
  else if (← typed) && (← isWord "const") && isPlainWord "enum" (← peek).token then
    advance
    advance
    let tree ← enumDeclaration rec inner true
    node .exportDeclaration first [tree]
  else if ← atVariables then
    let tree ← variableList rec inner false
    node .exportDeclaration first [tree]
  else exportList rec first false

/-- An item of a module. Plain scripts have no decorators before `export`. -/
def moduleItem (rec : Productions) : Parser Tree := asStatement do
  let first ← start
  let decorators ← decorators rec
  if ← atImportExpression then importStatement rec first
  else if ← isWord "import" then
    advance
    importRest rec first
  else if ← isWord "export" then
    if !decorators.isEmpty && !(← typed) then unexpected
    advance
    exportRest rec first decorators
  else statementRest rec first true decorators

end Phrasebook.Script.Grammar
