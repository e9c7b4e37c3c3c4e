import Phrasebook.Script.Parser

/-!
Names and types. Identifiers are read where they are used and where they are bound, and so are names
of properties. Types never run, but keys of their members are expressions like any other, so they
are read in full.
-/

namespace Phrasebook.Script.Grammar

open Phrasebook.Script.Parser

/-- Whether a word may stand for a variable. -/
def isVariableWord (word : String) : Bool :=
  !(isKeyword word || reservedWords.contains word || word == "let" || word == "yield"
    || word == "await")

def isVariableToken : Token → Bool
  | .word w escaped => escaped || isVariableWord w
  | _ => false

def atVariable : Parser Bool := return isVariableToken (← token)

def isWordToken : Token → Bool
  | .word _ _ => true
  | _ => false

/-- Whether the current token is this word and the next one, on the same line, satisfies the test.
-/
def wordBefore (word : String) (test : Token → Bool) : Parser Bool := do
  if ← isWord word then
    let next ← peek
    return !next.afterBreak && test next.token
  else return false

def isPlainWord (word : String) : Token → Bool
  | .word w false => w == word
  | _ => false

def isMarkToken (mark : Mark) : Token → Bool
  | .mark m => m == mark
  | _ => false

/-- Whether a `let` before this token begins a declaration. -/
def followsLet : Token → Bool
  | .word w escaped => escaped || !isKeyword w
  | .mark m => m == .openBrace || m == .openBracket
  | _ => false

/-- Any word at all. -/
def anyWord : Parser String := do
  match ← token with
  | .word w _ => advance; return w
  | _ => unexpected

/-- A word that names a variable or a type where it is declared. Module code admits `await` only
without implementation, and `this` is the name of a parameter in the typed dialects. -/
def declaredName : Parser String := do
  match ← token with
  | .word w escaped =>
    if !escaped && ((isKeyword w && !(w == "this" && (← typed))) ||
      (w == "await" && !(← read).ambient))
    then unexpected
    else advance; return w
  | _ => unexpected

/-- A name in brackets. The typed dialects read a whole sequence there. -/
def computedName (rec : Productions) (first : Nat) : Parser Tree := do
  expectMark .openBracket
  let expression ← withIn (rec .assignment)
  let more ← if ← typed then
      collect
        (do if ← eatMark .comma then return some (← withIn (rec .assignment)) else return none)
    else pure []
  expectMark .closeBracket
  let part := if more.isEmpty then expression else .node .sequence expression.span
      (expression :: more)
  node .computedName first [part]

/-- The name of a property. -/
def propertyName (rec : Productions) : Parser Tree := do
  let first ← start
  match ← token with
  | .string value => advance; node (.stringName value) first []
  | .number value => advance; node (.numberName value) first []
  | .integer value => advance; node (.integerName value) first []
  | .word w _ => advance; node (.name w) first []
  | .mark .openBracket => computedName rec first
  | _ => unexpected

/-- The name of a class member, which may be private. -/
def memberName (rec : Productions) : Parser Tree := do
  match ← token with
  | .privateWord w =>
    let first ← start
    advance
    node (.privateName w) first []
  | _ => propertyName rec

/-- The name behind a point. -/
def accessName : Parser Tree := do
  let first ← start
  match ← token with
  | .word w _ => advance; node (.name w) first []
  | .privateWord w => advance; node (.privateName w) first []
  | _ => unexpected

/-- Whether a token begins a name of a member, so that a word before it is a modifier. -/
def followsModifier : Token → Bool
  | .word _ _ | .privateWord _ | .string _ | .number _ | .integer _ => true
  | .mark m => m == .openBracket || m == .openBrace || m == .star || m == .dots
  | _ => false

/-- Reads one of the words if a name follows it on the same line. -/
def modifier? (words : List String) : Parser (Option String) := do
  match ← token with
  | .word w false =>
    if words.contains w then
      let next ← peek
      if !next.afterBreak && followsModifier next.token then
        advance
        return some w
      else return none
    else return none
  | _ => return none

/-- Reads the opening `<`, also as the first half of a `<<`. -/
def openAngle : Parser Unit := do
  match ← token with
  | .mark .less => advance
  | .mark .shiftLeft => resumeAt ((← lexeme).start.drop 1)
  | _ => unexpected

def atAngle : Parser Bool := isOneOf [.less, .shiftLeft]

/-- `<A, B>` behind a name. -/
def typeArguments (rec : Productions) : Parser Tree := do
  let first ← start
  openAngle
  let arguments ← withReader ({ · with conditionalTypes := true }) <|
    listUntil .greater (rec .type)
  node .typeArguments first arguments

def typeArguments? (rec : Productions) : Parser Tree := do
  if ← atAngle then typeArguments rec else return .absent

def typeParameter (rec : Productions) : Parser Tree := do
  let first ← start
  let modifiers ← collect (modifier? ["const", "in", "out"])
  let name ← declaredName
  let constraint ← if ← eatWord "extends" then rec .type else pure .absent
  let default ← if ← eatMark .assign then rec .type else pure .absent
  node (.typeParameter name modifiers) first [constraint, default]

/-- `<T extends U = V>` in front of parameters. -/
def typeParameters (rec : Productions) : Parser Tree := do
  let first ← start
  openAngle
  let parameters ← listUntil .greater (typeParameter rec)
  node .typeParameters first parameters

def typeParameters? (rec : Productions) : Parser Tree := do
  if (← typed) && (← isMark .less) then typeParameters rec else return .absent

/-- A type behind a colon, if one is there. -/
def annotation? (rec : Productions) : Parser Tree := do
  if ← typed <&&> eatMark .colon then rec .type else return .absent

/-- A dotted name. -/
def entityName : Parser Tree := do
  let first ← start
  let name ← anyWord
  let head ← node (.identifier name) first []
  loop (fun left => do
    if ← eatMark .dot then
      let right ← accessName
      return some (← node .qualifiedName first [left, right])
    else return none) head

/-- A result type: a type, or a statement about a parameter. -/
def resultType (rec : Productions) : Parser Tree := do
  let first ← start
  let asserting ← attempt do
    unless ← wordBefore "asserts" isWordToken do return none
    advance
    let name ← anyWord
    let part ← if ← eatWord "is" then rec .type else pure .absent
    return some (← node (.typePredicate name true) first [part])
  match asserting with
  | some tree => return tree
  | none =>
    let predicate ← attempt do
      match ← token with
      | .word name _ =>
        advance
        if (← isWord "is") && !(← afterBreak) then
          advance
          let part ← rec .type
          return some (← node (.typePredicate name false) first [part])
        else return none
      | _ => return none
    match predicate with
    | some tree => return tree
    | none => rec .type

/-- The parameters of a function type. -/
def signatureParameters (rec : Productions) : Parser Tree := do
  let first ← start
  expectMark .openParen
  let parameters ← listUntil .closeParen do
    let first ← start
    if ← eatMark .dots then
      let target ← rec .binding
      let type ← annotation? rec
      node .rest first [target, type]
    else
      let target ← rec .binding
      let optional ← eatMark .question
      let type ← annotation? rec
      match target with
      | .node (.binding name _) span _ => return .node (.binding name optional) span [type]
      | .node kind span (part :: _) => return .node kind span [part, type]
      | tree => return tree
  node .group first parameters

def typeSemicolon : Parser Unit := do
  unless ← eatMark .comma do expectSemicolon

/-- `[name: Key]: Value`, with what separates it from the next member. -/
def indexSignature? (rec : Productions) (first : Nat) (modifiers : Modifiers) :
    Parser (Option Tree) := do
  let begins ← ahead do
    unless ← eatMark .openBracket do return false
    unless ← atVariable do return false
    advance
    isMark .colon
  unless begins do return none
  advance
  let paramStart ← start
  let name ← anyWord
  expectMark .colon
  let key ← rec .type
  let parameter ← node (.binding name false) paramStart [key]
  expectMark .closeBracket
  let type ← annotation? rec
  typeSemicolon
  return some (← node (.indexSignature modifiers) first [parameter, type])

/-- The key of a member of an object type: an expression. -/
def signatureKey (rec : Productions) : Parser Tree := do
  let first ← start
  match ← token with
  | .string value => advance; node (.string value) first []
  | .number value => advance; node (.number value) first []
  | .integer value => advance; node (.integer value) first []
  | .word w _ => advance; node (.identifier w) first []
  | .mark .openBracket =>
    advance
    let expression ← withIn (rec .assignment)
    expectMark .closeBracket
    return expression
  | _ => unexpected

def accessorSignature? (rec : Productions) (first : Nat) : Parser (Option Tree) :=
  attempt do
    let accessor ← if ← eatWord "get" then pure AccessorKind.get
      else do expectWord "set"; pure AccessorKind.set
    let key ← signatureKey rec
    let parameters ← signatureParameters rec
    let type ← if accessor == .get then annotation? rec else pure .absent
    typeSemicolon
    return some (← node (.accessorSignature accessor) first [key, parameters, type])

def callSignature (rec : Productions) (first : Nat) (isConstructor : Bool) : Parser Tree := do
  let typeParams ← typeParameters? rec
  let parameters ← signatureParameters rec
  let type ← if ← eatMark .colon then resultType rec else pure .absent
  typeSemicolon
  node (.callSignature isConstructor) first [parameters, typeParams, type]

/-- A member of an object type. -/
def typeMember (rec : Productions) : Parser Tree := do
  let first ← start
  if ← isOneOf [.openParen, .less] then
    callSignature rec first false
  else if ← wordBeforeParens then
    advance
    callSignature rec first true
  else
    let readonly := (← modifier? ["readonly"]).isSome
    match ← indexSignature? rec first (if readonly then ["readonly"] else []) with
    | some tree => return tree
    | none =>
      let accessor ← if readonly then pure none else accessorSignature? rec first
      match accessor with
      | some tree => return tree
      | none =>
        let key ← signatureKey rec
        let optional ← eatMark .question
        if ← isOneOf [.openParen, .less] then
          let typeParams ← typeParameters? rec
          let parameters ← signatureParameters rec
          let type ← if ← eatMark .colon then resultType rec else pure .absent
          typeSemicolon
          node (.methodSignature optional) first [key, parameters, typeParams, type]
        else
          let type ← annotation? rec
          typeSemicolon
          node (.propertySignature readonly optional) first [key, type]
where
  wordBeforeParens : Parser Bool := do
    if ← isWord "new" then
      let next ← peek
      return isMarkToken .openParen next.token || isMarkToken .less next.token
    else return false

/-- Members of an object type up to the closing brace. -/
def typeMembers (rec : Productions) : Parser (List Tree) := do
  expectMark .openBrace
  let members ← collect do
    if (← isMark .closeBrace) || (← atEnd) then return none
    else return some (← typeMember rec)
  expectMark .closeBrace
  return members

def signMark? : Parser (Option Mark) := do
  if ← eatMark .plus then return some .plus
  else if ← eatMark .minus then return some .minus
  else return none

/-- A modifier with its sign; one without a sign is reported by a question mark. -/
def signed? (eat : Parser Bool) : Parser (Option Mark) := do
  let sign ← signMark?
  if sign.isSome then
    unless ← eat do unexpected
    return sign
  else if ← eat then return some .question
  else return none

def startsMappedType : Parser Bool := ahead do
  advance
  if ← isOneOf [.plus, .minus] then
    advance
    return ← isWord "readonly"
  let _ ← eatWord "readonly"
  unless ← eatMark .openBracket do return false
  unless isWordToken (← token) do return false
  advance
  isWord "in"

def mappedType (rec : Productions) : Parser Tree := do
  let first ← start
  expectMark .openBrace
  let readonly ← signed? (eatWord "readonly")
  expectMark .openBracket
  let name ← anyWord
  expectWord "in"
  let constraint ← rec .type
  let renamed ← if ← eatWord "as" then rec .type else pure .absent
  expectMark .closeBracket
  let optional ← signed? (eatMark .question)
  let type ← annotation? rec
  let _ ← eatSemicolon
  let _ ← eatMark .comma
  expectMark .closeBrace
  node (.mappedType name readonly optional) first [constraint, renamed, type]

def tupleMember (rec : Productions) : Parser Tree := do
  let first ← start
  let labeled ← attempt do
    let spread ← eatMark .dots
    let label ← anyWord
    let optional ← eatMark .question
    expectMark .colon
    let type ← rec .type
    return some (← node (.tupleMember (some label) optional spread) first [type])
  match labeled with
  | some tree => return tree
  | none =>
    let spread ← eatMark .dots
    let type ← rec .type
    let optional ← eatMark .question
    node (.tupleMember none optional spread) first [type]

/-- The attributes behind the source of an imported type, which are those of an object literal:
`{ with: { … } }`. -/
def importOptions (rec : Productions) : Parser Tree := do
  expectMark .openBrace
  expectWord "with"
  expectMark .colon
  unless ← isMark .openBrace do unexpected
  let attributes ← withIn (rec .assignment)
  unless attributes.kind == .object do unexpected
  let _ ← eatMark .comma
  expectMark .closeBrace
  return attributes

def importType (rec : Productions) : Parser Tree := do
  let first ← start
  expectWord "import"
  expectMark .openParen
  let sourceStart ← start
  let source ← match ← token with
    | .string value => do advance; node (.moduleSource value) sourceStart []
    | _ => unexpected
  let options ← eatMark .comma <&&> isMark .openBrace
  let attributes ← if options then importOptions rec else pure .absent
  expectMark .closeParen
  let qualifier ← if ← eatMark .dot then entityName else pure .absent
  let arguments ← typeArguments? rec
  node .importType first [source, qualifier, arguments, attributes]

/-- The static chunks of a template type and the types between them. -/
def templateTypeParts (rec : Productions) : Nat → Cursor → Parser (List String × List Tree)
  | 0, place => fail .unterminatedTemplate place.position
  | fuel + 1, place => do
    match readChunk (place.rest.length + 1) place.rest place.position (some []) with
    | .error e => throw e
    | .ok chunk =>
      let text := String.ofList ((chunk.codes.bind textOfCodes?).getD [])
      match chunk.ending with
      | .backtick => resumeAt chunk.stop; return ([text], [])
      | .expression =>
        resumeAt chunk.stop
        let type ← rec .type
        unless ← isMark .closeBrace do unexpected
        let (texts, types) ← templateTypeParts rec fuel (← lexeme).stop
        return (text :: texts, type :: types)

def keywordTypes : List String := [
  "any", "boolean", "bigint", "never", "number", "object", "string", "symbol", "unknown",
  "undefined", "intrinsic", "void", "null"]

def literal (kind : Kind) (first : Nat) : Parser Tree := do
  advance
  let part ← node kind first []
  node .literalType first [part]

/-- A type that no operator belongs to. -/
def primaryType (rec : Productions) : Parser Tree := do
  let first ← start
  match ← token with
  | .string value => literal (.stringName value) first
  | .number value => literal (.numberName value) first
  | .integer value => literal (.integerName value) first
  | .mark .minus =>
    advance
    let digits ← start
    let part ← match ← token with
      | .number value => do advance; node (.numberName value) digits []
      | .integer value => do advance; node (.integerName value) digits []
      | _ => unexpected
    let negative ← node (.unary (.mark .minus)) first [part]
    node .literalType first [negative]
  | .mark .backtick =>
    let (chunks, types) ← templateTypeParts rec (← read).limit (← lexeme).stop
    node (.templateType chunks) first types
  | .mark .openBrace =>
    if ← startsMappedType then withReader ({ · with conditionalTypes := true }) (mappedType rec)
    else
      let members ← withReader ({ · with conditionalTypes := true }) (typeMembers rec)
      node .typeLiteral first members
  | .mark .openBracket =>
    advance
    let members ← withReader ({ · with conditionalTypes := true }) <|
      listUntil .closeBracket (tupleMember rec)
    node .tupleType first members
  | .mark .openParen =>
    advance
    let type ← withReader ({ · with conditionalTypes := true }) (rec .type)
    expectMark .closeParen
    node .parensType first [type]
  | .word "true" false => literal (.name "true") first
  | .word "false" false => literal (.name "false") first
  | .word "import" false => importType rec
  | .word "typeof" false =>
    advance
    let entity ← if ← isWord "import" then importType rec else entityName
    let arguments ← if ← afterBreak then pure .absent else typeArguments? rec
    node .typeQuery first [entity, arguments]
  | .word w _ =>
    let next ← peek
    if keywordTypes.contains w && !isMarkToken .dot next.token then
      advance
      node (.keywordType w) first []
    else
      let entity ← entityName
      let arguments ← if ← afterBreak then pure .absent else typeArguments? rec
      node .typeReference first [entity, arguments]
  | _ => unexpected

/-- A type with brackets behind it. -/
def postfixType (rec : Productions) : Parser Tree := do
  let first ← start
  let head ← primaryType rec
  loop (fun type => do
    if (← afterBreak) || !(← isMark .openBracket) then return none
    advance
    if ← eatMark .closeBracket then return some (← node .arrayType first [type])
    let index ← rec .type
    expectMark .closeBracket
    return some (← node .indexedType first [type, index])) head

/-- `infer U`, with a bound unless the bound would begin a conditional type. -/
def inferType (rec : Productions) (first : Nat) : Parser Tree := do
  advance
  let nameStart ← start
  let name ← declaredName
  let bound ← attempt do
    unless ← eatWord "extends" do return none
    let bound ← withReader ({ · with conditionalTypes := false }) (rec .type)
    if (← read).conditionalTypes && (← isMark .question) then return none
    return some bound
  let parameter ← node (.typeParameter name []) nameStart [bound.getD .absent, .absent]
  node .inferType first [parameter]

/-- Whether a type may begin here. -/
def followsTypeOperator : Token → Bool
  | .word _ _ | .string _ | .number _ | .integer _ => true
  | .mark m => [.openParen, .openBrace, .openBracket, .backtick, .minus].contains m
  | _ => false

def operatorType (rec : Productions) : Parser Tree := do
  let first ← start
  match ← token with
  | .word w false =>
    if ["keyof", "unique", "readonly"].contains w && followsTypeOperator (← peek).token then
      advance
      let type ← rec .typeOperand
      node (.typeOperator w) first [type]
    else if w == "infer" && isWordToken (← peek).token then inferType rec first
    else postfixType rec
  | _ => postfixType rec

/-- Operands joined by a mark that may also stand before the first. -/
def joined (kind : Kind) (mark : Mark) (operand : Parser Tree) : Parser Tree := do
  let first ← start
  let leading ← eatMark mark
  let head ← operand
  let more ← collect (do if ← eatMark mark then return some (← operand) else return none)
  if more.isEmpty && !leading then return head else node kind first (head :: more)

def unionType (rec : Productions) : Parser Tree :=
  joined .unionType .bitOr (joined .intersectionType .bitAnd (rec .typeOperand))

/-- Skips brackets and what is in them; the first token is the opening one. -/
def skipBrackets : Parser Unit := do
  let step (depth : Nat) : Parser (Option Nat) := do
    if ← atEnd then return none
    let opens ← isOneOf [.openBrace, .openBracket]
    let closes ← isOneOf [.closeBrace, .closeBracket]
    if closes && depth == 1 then return none
    advance
    return some (if opens then depth + 1 else if closes then depth - 1 else depth)
  let _ ← loop step 0
  advance

/-- Whether parentheses here hold parameters of a function type. -/
def startsFunctionType : Parser Bool := do
  if ← isMark .less then return true
  unless ← isMark .openParen do return false
  ahead do
    advance
    if ← isOneOf [.closeParen, .dots] then return true
    match ← token with
    | .word _ _ => advance
    | .mark .openBrace | .mark .openBracket => skipBrackets
    | _ => return false
    if ← isOneOf [.colon, .comma, .question, .assign] then return true
    if ← eatMark .closeParen then isMark .arrow else return false

def functionType (rec : Productions) (isAbstract isConstructor : Bool) (first : Nat) :
    Parser Tree := do
  let typeParams ← typeParameters? rec
  let parameters ← signatureParameters rec
  expectMark .arrow
  let type ← resultType rec
  node (.functionType isAbstract isConstructor) first [parameters, typeParams, type]

def plainType (rec : Productions) : Parser Tree := do
  let first ← start
  if ← startsFunctionType then functionType rec false false first
  else if ← isWord "new" then
    advance
    functionType rec false true first
  else if ← wordBefore "abstract" (isPlainWord "new") then
    advance
    advance
    functionType rec true true first
  else unionType rec

/-- A type. -/
def type (rec : Productions) : Parser Tree := do
  let first ← start
  let checked ← plainType rec
  let conditional := (← read).conditionalTypes && !(← afterBreak)
  if ← pure conditional <&&> eatWord "extends" then
    let bound ← withReader ({ · with conditionalTypes := false }) (rec .type)
    expectMark .question
    let consequent ← withReader ({ · with conditionalTypes := true }) (rec .type)
    expectMark .colon
    let alternative ← withReader ({ · with conditionalTypes := true }) (rec .type)
    node .conditionalType first [checked, bound, consequent, alternative]
  else return checked

end Phrasebook.Script.Grammar
