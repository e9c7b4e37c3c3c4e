/-!
Patterns for file names. `?` stands for a character and `*` for any number of them, slashes
included; `**` must be a whole component and stands for any number of components; brackets list
characters.
-/

namespace Phrasebook

namespace Glob

/-- Characters listed in brackets: single ones and ranges. -/
inductive Item
  | one (c : Char)
  | range (low high : Char)
deriving DecidableEq, Repr

inductive Token
  | char (c : Char)
  | any
  | many
  | components
  | within (items : List Item)
  | except (items : List Item)
deriving DecidableEq, Repr

inductive Fault
  | wildcards
  | recursive
  | range
deriving DecidableEq, Repr

/-- A pattern is refused at a position, counted in characters. -/
structure Error where
  fault : Fault
  position : Nat
deriving DecidableEq, Repr

def Fault.message : Fault → String
  | wildcards => "wildcards are either regular \x60*\x60 or recursive \x60**\x60"
  | recursive => "recursive wildcards must form a single path component"
  | range => "invalid range pattern"

def Error.message (e : Error) : String :=
  s!"Pattern syntax error near position {e.position}: {e.fault.message}"

def readItems : List Char → List Item
  | low :: '-' :: high :: cs => .range low high :: readItems cs
  | c :: cs => .one c :: readItems cs
  | [] => []

/-- Characters in brackets; the first one may be a closing bracket. -/
private def readRange? (cs : List Char) : Option (Token × Nat) :=
  let close (inner : List Char) : Option (List Char) :=
    match inner with
    | [] => none
    | first :: rest =>
      let body := rest.takeWhile (· != ']')
      if body.length < rest.length then some (first :: body) else none
  match cs with
  | '!' :: rest => (close rest).map fun body => (.except (readItems body), body.length + 3)
  | _ => (close cs).map fun body => (.within (readItems body), body.length + 2)

private def pushComponents (tokens : List Token) : List Token :=
  match tokens with
  | .components :: _ :: _ => tokens
  | _ => .components :: tokens

/-- Reads a pattern from a position on. The tokens so far come in reverse order, and `slashed` says
whether the pattern begins here or a slash stands before. -/
def readFrom : Nat → Nat → Bool → List Token → List Char → Except Error (List Token)
  | 0, _, _, tokens, _ => .ok tokens.reverse
  | _ + 1, _, _, tokens, [] => .ok tokens.reverse
  | fuel + 1, i, _, tokens, '?' :: cs => readFrom fuel (i + 1) false (.any :: tokens) cs
  | fuel + 1, i, slashed, tokens, '*' :: cs =>
    let stars := (cs.takeWhile (· == '*')).length + 1
    let rest := cs.drop (stars - 1)
    if 2 < stars then .error ⟨.wildcards, i + 2⟩
    else if stars = 1 then readFrom fuel (i + 1) false (.many :: tokens) rest
    else if !slashed then .error ⟨.recursive, i - 1⟩
    else match rest with
    | [] => readFrom fuel (i + 2) false (pushComponents tokens) []
    | '/' :: rest => readFrom fuel (i + 3) true (pushComponents tokens) rest
    | _ => .error ⟨.recursive, i + 2⟩
  | fuel + 1, i, _, tokens, '[' :: cs =>
    match readRange? cs with
    | some (token, n) => readFrom fuel (i + n) false (token :: tokens) (cs.drop (n - 1))
    | none => .error ⟨.range, i⟩
  | fuel + 1, i, _, tokens, c :: cs => readFrom fuel (i + 1) (c == '/') (.char c :: tokens) cs

def Item.has : Item → Char → Bool
  | one d, c => c == d
  | range low high, c => low ≤ c && c ≤ high

def Token.takes : Token → Char → Bool
  | char d, c => c == d
  | any, _ => true
  | within items, c => items.any (·.has c)
  | except items, c => !items.any (·.has c)
  | many, _ | components, _ => false

/-- Tries a continuation at every place, or only behind slashes if `slashes` holds, and at the end.
-/
def somewhere (slashes : Bool) (next : List Char → Bool) : List Char → Bool
  | [] => next []
  | c :: cs => (if slashes then c == '/' && next cs else next cs) || somewhere slashes next cs

def Token.matchAll : List Token → List Char → Bool
  | [], cs => cs.isEmpty
  | .many :: tokens, cs => Token.matchAll tokens cs || somewhere false (Token.matchAll tokens) cs
  | .components :: tokens, cs =>
    Token.matchAll tokens cs || somewhere true (Token.matchAll tokens) cs
  | token :: tokens, c :: cs => token.takes c && Token.matchAll tokens cs
  | _ :: _, [] => false

end Glob

/-- A pattern that has been read. -/
structure Glob where
  tokens : List Glob.Token
deriving DecidableEq, Repr

namespace Glob

def read (pattern : String) : Except Error Glob :=
  (readFrom (pattern.length + 1) 0 true [] pattern.toList).map Glob.mk

def accepts (glob : Glob) (text : String) : Bool := Token.matchAll glob.tokens text.toList

end Glob
end Phrasebook
