import Phrasebook.Script.Grammar.Type

/-!
What may follow an expression: member accesses, calls, template literals, and the marks of the typed
dialects. Template literals themselves are here too, and so are markup elements inside scripts.
Between the tags of an element the source is read character by character; inside a tag and inside
braces it consists of tokens again. No parser of elements reads past the end of one, because only
the caller knows whether text or a token follows.
-/

namespace Phrasebook.Script.Grammar

open Phrasebook.Script.Parser

/-- Expressions with commas between them. -/
def expression (rec : Productions) : Parser Tree := do
  let first ← start
  let head ← rec .assignment
  let more ← collect do
    if ← eatMark .comma then return some (← rec .assignment) else return none
  if more.isEmpty then return head else node .sequence first (head :: more)

def spreadOrExpression (rec : Productions) : Parser Tree := do
  let first ← start
  if ← eatMark .dots then
    let argument ← rec .assignment
    node .spread first [argument]
  else rec .assignment

/-- An argument of a call. A comma may come last if the flag admits it. -/
def callArgument (rec : Productions) (lastComma : Bool) : Parser Tree := do
  let argument ← spreadOrExpression rec
  if !lastComma && (← isMark .comma) && isMarkToken .closeParen (← peek).token then unexpected
  return argument

/-- Arguments of a call, with their parentheses. -/
def callArguments (rec : Productions) (lastComma : Bool) : Parser Tree := do
  let first ← start
  expectMark .openParen
  let arguments ← inBrackets (listUntil .closeParen (callArgument rec lastComma))
  node .group first arguments

def templateChunk (place : Cursor) (chunk : Chunk) : TemplateChunk :=
  let ending := match chunk.ending with
    | .backtick => 1
    | .expression => 2
  let source := Text.splitBytes? (chunk.stop.position - place.position - ending) place.rest
  ⟨(chunk.codes.bind textOfCodes?).map String.ofList, String.ofList ((source.map Prod.fst).getD [])⟩

/-- Chunks and expressions from a place inside a template literal. A tag function also takes chunks
with malformed escapes. -/
def templateParts (rec : Productions) (tagged : Bool) :
    Nat → Cursor → Parser (List TemplateChunk × List Tree)
  | 0, place => fail .unterminatedTemplate place.position
  | fuel + 1, place => do
    match readChunk (place.rest.length + 1) place.rest place.position (some []) with
    | .error e => throw e
    | .ok chunk =>
      if chunk.codes.isNone && !tagged then fail .badEscape place.position
      let text := templateChunk place chunk
      match chunk.ending with
      | .backtick => resumeAt chunk.stop; return ([text], [])
      | .expression =>
        resumeAt chunk.stop
        let part ← withIn (expression rec)
        unless ← isMark .closeBrace do unexpected
        let (texts, parts) ← templateParts rec tagged fuel (← lexeme).stop
        return (text :: texts, part :: parts)

/-- A template literal; the current token is its backtick. -/
def template (rec : Productions) (tagged : Bool) : Parser Tree := do
  let first ← start
  let (chunks, parts) ← templateParts rec tagged (← read).limit (← lexeme).stop
  node (.template chunks) first parts

/-- Whether an expression is part of an optional chain. -/
def inChain : Tree → Bool
  | .node (.member link) _ _ | .node (.index link) _ _ | .node (.call link) _ _ => link != .plain
  | .node .nonNull _ [inner] => inChain inner
  | _ => false

def linkAfter (object : Tree) (questioned : Bool) : Link :=
  if questioned then .questioned else if inChain object then .continued else .plain

def isHead (kind : Kind) : Tree → Bool
  | .node k _ _ => k == kind

/-- Whether a token begins an expression, and does not go on with one. -/
def startsExpression : Token → Bool
  | .word w escaped =>
    escaped || !isKeyword w || ["function", "new", "this", "super", "class", "import", "typeof",
      "void", "delete", "null", "true", "false"].contains w
  | .privateWord _ | .string _ | .number _ | .integer _ => true
  | .mark m => [.openParen, .openBracket, .openBrace, .plus, .minus, .negate, .bitNot, .increment,
      .decrement, .slash, .slashAssign, .backtick, .less, .atSign].contains m
  | _ => false

/-- Whether type arguments may end before the current token without a call. -/
def endsTypeArguments : Parser Bool := do
  if ← isOneOf [.less, .greater, .plus, .minus, .openParen, .backtick] then return false
  if ← afterBreak then return true
  match ← token with
  | .mark m => return m.precedence?.isSome || !startsExpression (.mark m)
  | t => return !startsExpression t

def typedSubscript? (rec : Productions) (noCall : Bool) (head : Tree) : Parser (Option Tree) := do
  let first := head.span.start
  attempt do
    let types ← typeArguments rec
    if !noCall && (← isMark .openParen) then
      let arguments ← callArguments rec true
      return some (← node (.call (linkAfter head false)) first [head, arguments, types])
    else if ← isMark .backtick then
      let literal ← template rec true
      return some (← node .taggedTemplate first [head, literal, types])
    else if ← endsTypeArguments then
      return some (← node .instantiation first [head, types])
    else return none

/-- One access behind `head`, if one follows. -/
def subscript? (rec : Productions) (noCall noIndex : Bool) (head : Tree) :
    Parser (Option Tree) := do
  let first := head.span.start
  if (← typed) && !(← afterBreak) && (← isMark .negate) then
    advance
    return some (← node .nonNull first [head])
  let typedPart ← if (← typed) && (← atAngle) then typedSubscript? rec noCall head else pure none
  if let some tree := typedPart then return some tree
  let questioned ← eatMark .questionDot
  let link := linkAfter head questioned
  if (questioned || !noIndex) && (← isMark .openBracket) then
    advance
    let inner ← withIn (expression rec)
    expectMark .closeBracket
    return some (← node (.index link) first [head, inner])
  else if (questioned || !noCall) && (← isMark .openParen) then
    let arguments ← callArguments rec (!isHead .importCallee head || (← typed))
    return some (← node (.call link) first [head, arguments, .absent])
  else if questioned && (← typed) && (← atAngle) then
    let types ← typeArguments rec
    let arguments ← callArguments rec true
    return some (← node (.call link) first [head, arguments, types])
  else if questioned then
    let name ← accessName
    return some (← node (.member link) first [head, name])
  else if ← eatMark .dot then
    let name ← accessName
    return some (← node (.member link) first [head, name])
  else if ← isMark .backtick then
    let literal ← template rec true
    return some (← node .taggedTemplate first [head, literal, .absent])
  else return none

/-- All accesses behind `head`. The word `super` and the callee of an import need one. -/
def subscripts (rec : Productions) (noCall noIndex : Bool) (head : Tree) : Parser Tree := do
  let tree ← loop (fun head => do
    if isHead .importCallee head then
      if noCall || !(← isMark .openParen) then unexpected
    if isHead .super head then
      let admitted ← isOneOf
        (if noCall then [.dot, .openBracket] else [.dot, .openBracket, .openParen])
      unless admitted do unexpected
    subscript? rec noCall noIndex head) head
  return tree

/-- A word of a tag, in which `-` counts as a letter. -/
def tagWord : Parser String := do
  match ← token with
  | .word _ _ =>
    let here := (← lexeme).start
    let (word, stop) :=
      Cursor.takeWhile (fun c => isWordPart c || c == '-') here.rest here.position
    resumeAt stop
    return String.ofList word
  | _ => unexpected

/-- `a`, `a:b` or `a.b.c`. -/
def elementName : Parser (List String) := do
  let head ← tagWord
  if ← eatMark .colon then
    let tail ← tagWord
    return [head ++ ":" ++ tail]
  let more ← collect (do if ← eatMark .dot then return some (← tagWord) else return none)
  return head :: more

/-- Text between quotes, without escapes. -/
def quotedText (quote : Char) (rest : List Char) (position : Nat) : Parser String := do
  let (text, stop) := Cursor.takeWhile (· != quote) rest position
  match stop.rest with
  | _ :: after =>
    resumeAt ⟨after, stop.position + 1⟩
    return String.ofList text
  | [] => fail .unbalancedElement position

def attributeValue (rec : Productions) : Parser Tree := do
  let here := (← lexeme).start
  match here.rest with
  | '"' :: rest =>
    let text ← quotedText '"' rest (here.position + 1)
    node (.attributeText text) here.position []
  | '\'' :: rest =>
    let text ← quotedText '\'' rest (here.position + 1)
    node (.attributeText text) here.position []
  | '\x7b' :: _ =>
    advance
    let inner ← withIn (expression rec)
    expectMark .closeBrace
    node .container here.position [inner]
  | '<' :: _ =>
    expectMark .less
    let element ← rec (.element here.position)
    advance
    return element
  | _ => unexpected

def tagAttribute (rec : Productions) : Parser Tree := do
  let first ← start
  if ← eatMark .openBrace then
    expectMark .dots
    let inner ← withIn (rec .assignment)
    expectMark .closeBrace
    node .spreadContainer first [inner]
  else
    let name ← tagWord
    let name ← if ← eatMark .colon then do pure (name ++ ":" ++ (← tagWord)) else pure name
    let value ← if ← eatMark .assign then attributeValue rec else pure .absent
    node (.attribute name) first [value]

def sameName : Option (List String) → Option (List String) → Bool
  | none, none => true
  | some a, some b => a == b
  | _, _ => false

/-- What is in the braces between two tags, whose closing one is left. -/
def container (rec : Productions) (first : Nat) : Parser Tree := do
  let inner ← do
    if ← isMark .closeBrace then pure Tree.absent
    else if ← eatMark .dots then do
      let inner ← withIn (expression rec)
      pure (.node .spread ⟨first, inner.span.stop⟩ [inner])
    else withIn (expression rec)
  unless ← isMark .closeBrace do unexpected
  return .node .container ⟨first, (← lexeme).stop.position⟩ [inner]

/-- Children from a place between two tags up to the closing tag, with the name in it. -/
def children (rec : Productions) : Nat → Cursor →
    Parser (List Tree × Option (List String))
  | 0, place => fail .unbalancedElement place.position
  | fuel + 1, place => do
    let (text, stop) :=
      Cursor.takeWhile (fun c => c != '<' && c != '\x7b') place.rest place.position
    let texts := if text.isEmpty then []
      else [Tree.node (.elementText (String.ofList text)) ⟨place.position, stop.position⟩ []]
    match stop.rest with
    | '\x7b' :: rest =>
      resumeAt ⟨rest, stop.position + 1⟩
      let part ← container rec stop.position
      let (more, name) ← children rec fuel (← lexeme).stop
      return (texts ++ part :: more, name)
    | '<' :: rest =>
      resumeAt ⟨rest, stop.position + 1⟩
      if ← eatMark .slash then
        let name ← if ← isMark .greater then pure none else some <$> elementName
        unless ← isMark .greater do unexpected
        return (texts, name)
      else
        let part ← rec (.element stop.position)
        let (more, name) ← children rec fuel (← lexeme).stop
        return (texts ++ part :: more, name)
    | _ =>
      resumeAt stop
      fail .unbalancedElement place.position

/-- The closing tag, which stands before its `>`, has another name than the opening one. -/
def mismatch : Parser α := do
  advance
  fail .unbalancedElement (← lastStop)

/-- An element whose `<` has been read, up to its last `>`. -/
def element (rec : Productions) (first : Nat) : Parser Tree := do
  if ← isMark .greater then
    let (parts, closing) ← children rec (← read).limit (← lexeme).stop
    if closing.isSome then mismatch
    return .node .fragment ⟨first, (← lexeme).stop.position⟩ parts
  let nameStart ← start
  let name ← elementName
  let nameTree ← node (.elementName name) nameStart []
  let types ← if ← typed then typeArguments? rec else pure .absent
  let attributes ← collect do
    if (← isOneOf [.slash, .greater]) || (← atEnd) then return none
    else return some (← tagAttribute rec)
  if ← eatMark .slash then
    unless ← isMark .greater do unexpected
    return .node .element ⟨first, (← lexeme).stop.position⟩
      [nameTree, types, .group attributes, .group [], .absent]
  unless ← isMark .greater do unexpected
  let (parts, closing) ← children rec (← read).limit (← lexeme).stop
  unless sameName closing (some name) do mismatch
  return .node .element ⟨first, (← lexeme).stop.position⟩
    [nameTree, types, .group attributes, .group parts, .node (.elementName name) ⟨0, 0⟩ []]

end Phrasebook.Script.Grammar
