import Phrasebook.Script.Dialect
import Phrasebook.Text.Lines
import Phrasebook.Text.Search
import Phrasebook.Text.Space

/-!
Single-file components: the markup of a component and its script, each with its place in the file.
The markup lies between the first opening template tag and the closing tag that balances it, and the
script between the first opening script tag and the next closing one.
-/

namespace Phrasebook

/-- A part of a component file. -/
structure Block where
  content : List Char
  /-- Line of its first character in the file. -/
  startLine : Nat
  /-- Byte position of its first character in the file. -/
  offset : Nat

structure ScriptBlock where
  block : Block
  dialect : Script.Dialect

structure Component where
  template : Option Block
  script : Option ScriptBlock

end Phrasebook

namespace Phrasebook.Component

open Text

/-- Whether a word ends before these characters. -/
def endsWord (cs : List Char) : Bool :=
  match cs with
  | [] => true
  | c :: _ => !isWord c

/-- What follows a tag's name, if these characters begin with the name as a whole word. -/
def afterName? (name : String) (cs : List Char) : Option (List Char) :=
  if name.toList.isPrefixOf cs && endsWord (cs.drop name.length) then some (cs.drop name.length)
  else none

/-- A template tag. -/
structure Tag where
  span : Span
  closing : Bool
  selfClosing : Bool
deriving DecidableEq, Repr

/-- Whether a template tag begins behind a `<`, and whether it is a closing one. -/
def opensTag? (cs : List Char) : Option Bool :=
  match cs with
  | '/' :: rest => (afterName? "template" rest).map fun _ => true
  | _ => (afterName? "template" cs).map fun _ => false

/-- A tag that has begun: its position, whether it is a closing one, and whether a slash came last.
-/
structure OpenTag where
  start : Nat
  closing : Bool
  slashed : Bool

def tagsFrom : Option OpenTag → List Char → Nat → List Tag
  | _, [], _ => []
  | some tag, c :: cs, p =>
    if c == '>' then ⟨⟨tag.start, p + 1⟩, tag.closing, tag.slashed⟩ :: tagsFrom none cs (p + 1)
    else tagsFrom (some { tag with slashed := c == '/' }) cs (p + c.utf8Size)
  | none, c :: cs, p =>
    match if c == '<' then opensTag? cs else none with
    | some closing => tagsFrom (some ⟨p, closing, false⟩) cs (p + 1)
    | none => tagsFrom none cs (p + c.utf8Size)

/-- The template tags of a source that are not closed in themselves. -/
def templateTags (cs : List Char) : List Tag := (tagsFrom none cs 0).filter (!·.selfClosing)

/-- The span up to the tag that closes as many tags as are open. -/
def balancedStop? : Nat → List Tag → Option Nat
  | _, [] => none
  | depth, tag :: tags =>
    if tag.closing then
      match depth with
      | 0 => balancedStop? 0 tags
      | 1 => some tag.span.start
      | depth + 2 => balancedStop? (depth + 1) tags
    else balancedStop? (depth + 1) tags

/-- Where the content of the outermost template lies. -/
def templateSpan? (tags : List Tag) : Option Span :=
  match tags.dropWhile (·.closing) with
  | [] => none
  | first :: rest => (balancedStop? 1 rest).map fun stop => ⟨first.span.stop, stop⟩

def blockAt? (cs : List Char) (span : Span) : Option Block := do
  let (front, _) ← splitBytes? span.start cs
  let content ← slice? cs span
  return ⟨content, lineFeeds front + 1, span.start⟩

def template? (cs : List Char) : Option Block :=
  (templateSpan? (templateTags cs)).bind (blockAt? cs)

/-- The value behind the word `lang` in a script tag. -/
private def langValue? (cs : List Char) : Option (List Char) :=
  match trimStart cs with
  | '=' :: cs =>
    match trimStart cs with
    | quote :: cs =>
      if quote == '"' || quote == '\'' then
        let isQuote := fun c => c == '"' || c == '\''
        let value := cs.takeWhile fun c => !isQuote c
        if value.isEmpty || value.length == cs.length then none else some value
      else none
    | [] => none
  | _ => none

/-- The language that the attributes of a script tag name. The flag says whether a word may begin.
-/
def lang? : Bool → List Char → Option String
  | _, [] => none
  | begins, c :: cs =>
    let here := if begins && "lang".toList.isPrefixOf (c :: cs)
        then langValue? (cs.drop 3) else none
    match here with
    | some value => some (String.ofList value)
    | none => lang? (!isWord c) cs

/-- The characters behind a `<script` that is a whole word, and their position. -/
private def scriptTag? : List Char → Nat → Option (List Char × Nat)
  | [], _ => none
  | c :: cs, p =>
    match if c == '<' then afterName? "script" cs else none with
    | some rest => some (rest, p + 7)
    | none => scriptTag? cs (p + c.utf8Size)

def script? (cs : List Char) : Option ScriptBlock := do
  let (rest, p) ← scriptTag? cs 0
  let attributes := rest.takeWhile (· != '>')
  let body ← match rest.drop attributes.length with
    | _ :: body => some body
    | [] => none
  let start := p + byteLength attributes + 1
  let (content, _) ← splitAtFirst? "</script>".toList body
  let block ← blockAt? cs ⟨start, start + byteLength content⟩
  return ⟨block, Script.Dialect.ofLang (lang? true attributes)⟩

/-- The parts of a component file. -/
def split (cs : List Char) : Component := ⟨template? cs, script? cs⟩

end Phrasebook.Component
