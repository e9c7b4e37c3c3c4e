import Phrasebook.Script.Word

/-!
Characters written with escapes, in strings and in template literals. An escape may name half of a
surrogate pair; two halves next to each other are one character, and a literal with a half that
stays alone has no text. Of a regular expression only the extent is read: a slash inside a
character class or behind a backslash does not end one.
-/

namespace Phrasebook.Script

def isHighHalf (code : Nat) : Bool := 0xd800 ≤ code && code < 0xdc00

def isLowHalf (code : Nat) : Bool := 0xdc00 ≤ code && code < 0xe000

/-- The text of a list of code points, if no half of a surrogate pair stands alone in it. -/
def textOfCodes? : List Nat → Option (List Char)
  | [] => some []
  | high :: low :: codes =>
    if isHighHalf high && isLowHalf low then
      (textOfCodes? codes).map
        (Char.ofNat (0x10000 + (high - 0xd800) * 0x400 + (low - 0xdc00)) :: ·)
    else if isHighHalf high || isLowHalf high then none
    else (textOfCodes? (low :: codes)).map (Char.ofNat high :: ·)
  | [code] => if isHighHalf code || isLowHalf code then none else some [Char.ofNat code]

def octalValue? (c : Char) : Option Nat :=
  match hexValue? c with
  | some d => if d < 8 then some d else none
  | none => none

/-- An octal escape: up to three digits with a value below 256. -/
def readOctal (first : Nat) (cs : List Char) (p : Nat) : Nat × Cursor :=
  match cs with
  | [] => (first, ⟨[], p⟩)
  | c :: rest =>
    match octalValue? c with
    | none => (first, ⟨c :: rest, p⟩)
    | some second =>
      let value := first * 8 + second
      match rest with
      | [] => (value, ⟨[], p + 1⟩)
      | d :: rest' =>
        match octalValue? d with
        | none => (value, ⟨rest, p + 1⟩)
        | some third =>
          if value * 8 + third < 256 then (value * 8 + third, ⟨rest', p + 2⟩)
          else (value, ⟨rest, p + 1⟩)

/-- What a backslash before these characters stands for: a code point, or nothing if a line goes on.
Octal escapes are for strings only. -/
def readEscape (inTemplate : Bool) (cs : List Char) (p : Nat) :
    Except SyntaxError (Option Nat × Cursor) :=
  match cs with
  | [] => .ok (none, ⟨[], p⟩)
  | '\r' :: '\n' :: rest => .ok (none, ⟨rest, p + 2⟩)
  | c :: rest =>
    let here : Cursor := ⟨rest, p + c.utf8Size⟩
    if isLineEnd c then .ok (none, here)
    else match c with
    | 'n' => .ok (some 10, here)
    | 'r' => .ok (some 13, here)
    | 't' => .ok (some 9, here)
    | 'b' => .ok (some 8, here)
    | 'v' => .ok (some 11, here)
    | 'f' => .ok (some 12, here)
    | 'x' =>
      match hexNumber? (rest.take 2) with
      | some n =>
        if 2 ≤ rest.length then .ok (some n, ⟨rest.drop 2, p + 3⟩) else .error ⟨.badEscape, p⟩
      | none => .error ⟨.badEscape, p⟩
    | 'u' => do
      let (code, stop) ← readCodePoint rest (p + 1)
      return (some code, stop)
    | c =>
      match octalValue? c with
      | none => .ok (some c.toNat, here)
      | some 0 =>
        match rest.head?.bind octalValue? with
        | none => .ok (some 0, here)
        | some _ =>
          if inTemplate then .error ⟨.badEscape, p⟩
          else let (value, stop) := readOctal 0 rest (p + 1); .ok (some value, stop)
      | some first =>
        if inTemplate then .error ⟨.badEscape, p⟩
        else let (value, stop) := readOctal first rest (p + 1); .ok (some value, stop)

/-- The code points up to the closing quote. A string that is not closed ends with its line. -/
def readStringCodes (quote : Char) : Nat → List Char → Nat → List Nat →
    Except SyntaxError (List Nat × Cursor)
  | 0, cs, p, codes => .ok (codes.reverse, ⟨cs, p⟩)
  | _ + 1, [], p, codes => .ok (codes.reverse, ⟨[], p⟩)
  | fuel + 1, c :: cs, p, codes =>
    if c == quote then .ok (codes.reverse, ⟨cs, p + 1⟩)
    else if c == '\\' then
      match readEscape false cs (p + 1) with
      | .error e => .error e
      | .ok (none, stop) => readStringCodes quote fuel stop.rest stop.position codes
      | .ok (some code, stop) => readStringCodes quote fuel stop.rest stop.position (code :: codes)
    else if c == '\n' || c == '\r' then .ok (codes.reverse, ⟨c :: cs, p⟩)
    else readStringCodes quote fuel cs (p + c.utf8Size) (c.toNat :: codes)

/-- The text of a string literal, without its opening quote. -/
def readString (quote : Char) (cs : List Char) (p : Nat) :
    Except SyntaxError (Option String × Cursor) := do
  let (codes, stop) ← readStringCodes quote (cs.length + 1) cs p []
  return ((textOfCodes? codes).map String.ofList, stop)

/-- What ends a static chunk of a template literal. -/
inductive ChunkEnd
  | backtick
  | expression
deriving DecidableEq

structure Chunk where
  /-- Code points after escapes; none if an escape is malformed. -/
  codes : Option (List Nat)
  stop : Cursor
  ending : ChunkEnd

/-- A static chunk up to `\x60` or the opening of an expression. Line ends become line feeds. -/
def readChunk : Nat → List Char → Nat → Option (List Nat) → Except SyntaxError Chunk
  | 0, _, p, _ => .error ⟨.unterminatedTemplate, p⟩
  | _ + 1, [], p, _ => .error ⟨.unterminatedTemplate, p⟩
  | _ + 1, '\x60' :: cs, p, codes => .ok ⟨codes.map List.reverse, ⟨cs, p + 1⟩, .backtick⟩
  | _ + 1, '$' :: '\x7b' :: cs, p, codes => .ok ⟨codes.map List.reverse, ⟨cs, p + 2⟩, .expression⟩
  | fuel + 1, '\r' :: '\n' :: cs, p, codes => readChunk fuel cs (p + 2) (codes.map (10 :: ·))
  | fuel + 1, '\r' :: cs, p, codes => readChunk fuel cs (p + 1) (codes.map (10 :: ·))
  | fuel + 1, '\\' :: cs, p, codes =>
    match readEscape true cs (p + 1) with
    | .error _ => readChunk fuel (cs.drop 1) (p + 1 + ((cs.head?.map Char.utf8Size).getD 0)) none
    | .ok (none, stop) => readChunk fuel stop.rest stop.position codes
    | .ok (some code, stop) => readChunk fuel stop.rest stop.position (codes.map (code :: ·))
  | fuel + 1, c :: cs, p, codes =>
    readChunk fuel cs (p + c.utf8Size) (codes.map (c.toNat :: ·))

/-- Behind the closing slash. -/
def skipPattern (inClass : Bool) : List Char → Nat → Option Cursor
  | [], _ => none
  | '\\' :: c :: cs, p => if isLineEnd c then none else skipPattern inClass cs (p + 1 + c.utf8Size)
  | c :: cs, p =>
    if isLineEnd c then none
    else if c == '/' && !inClass then some ⟨cs, p + 1⟩
    else skipPattern (if c == '[' then true else if c == ']' then false else inClass)
      cs (p + c.utf8Size)

/-- Behind a regular expression and its flags, the opening slash having been read. -/
def readPattern (cs : List Char) (p : Nat) : Except SyntaxError Cursor :=
  match skipPattern false cs p with
  | none => .error ⟨.unterminatedPattern, p⟩
  | some stop => .ok (Cursor.takeWhile isWordPart stop.rest stop.position).2

end Phrasebook.Script
