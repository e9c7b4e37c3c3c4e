import Phrasebook.Locale.Template
import Phrasebook.Text.Lines
import Phrasebook.Text.Space

/-!
The file of a translation template: a phrase and its translation a line, with an equals sign between
them. What would change the meaning of a line is written with a backslash, and so are spaces at
either end of a text.
-/

namespace Phrasebook.Template

def header : String :=
"# Translation template
#
# One phrase per line: \x60source phrase = translation\x60.
# Fill in the right-hand side and run \x60translate <lang>\x60.
# Lines starting with \x60#\x60 are ignored. Write line breaks as \\n,
# \x60=\x60 as \\=, a leading \x60#\x60 as \\# and spaces at either end as \\s.
# Phrases left blank are reported as empty, absent phrases as missing.
"

/-- The line before the translations of phrases that are not in use. -/
def retainedMarker : String := "# Retained: translations of phrases no longer extracted"

def escapeChar : Char → List Char
  | '\\' => ['\\', '\\']
  | '\n' => ['\\', 'n']
  | '\r' => ['\\', 'r']
  | '\t' => ['\\', 't']
  | '=' => ['\\', '=']
  | c => [c]

/-- A character of the white space at an end. -/
def escapeEdge (c : Char) : List Char := if c = ' ' then ['\\', 's'] else escapeChar c

/-- What lies between the ends; a `#` is escaped at the very start of the text. -/
def escapeCore : List Char → List Char
  | '#' :: cs => '\\' :: '#' :: cs.flatMap escapeChar
  | cs => cs.flatMap escapeChar

def escape (cs : List Char) : List Char :=
  let leading := cs.takeWhile Text.isSpace
  let rest := cs.dropWhile Text.isSpace
  let core := Text.trimEnd rest
  let trailing := rest.drop core.length
  leading.flatMap escapeEdge
    ++ (if leading.isEmpty then escapeCore core else core.flatMap escapeChar)
    ++ trailing.flatMap escapeEdge

def unescape : List Char → List Char
  | [] => []
  | '\\' :: 'n' :: cs => '\n' :: unescape cs
  | '\\' :: 'r' :: cs => '\r' :: unescape cs
  | '\\' :: 't' :: cs => '\t' :: unescape cs
  | '\\' :: 's' :: cs => ' ' :: unescape cs
  | '\\' :: '\\' :: cs => '\\' :: unescape cs
  | '\\' :: '=' :: cs => '=' :: unescape cs
  | '\\' :: '#' :: cs => '#' :: unescape cs
  | '\\' :: c :: cs => '\\' :: c :: unescape cs
  | c :: cs => c :: unescape cs

/-- Splits at the first occurrence of the pattern outside escapes. -/
def splitUnescaped? (pattern : List Char) : List Char → Option (List Char × List Char)
  | [] => none
  | ['\\'] => none
  | '\\' :: c :: cs =>
    (splitUnescaped? pattern cs).map fun (before, after) => ('\\' :: c :: before, after)
  | c :: cs =>
    if pattern.isPrefixOf (c :: cs) then some ([], (c :: cs).drop pattern.length)
    else (splitUnescaped? pattern cs).map fun (before, after) => (c :: before, after)

/-- An odd number of backslashes comes last. -/
def endsInEscape (cs : List Char) : Bool := (cs.reverse.takeWhile (· == '\\')).length % 2 == 1

/-- The phrase before an equals sign at the end of a line. -/
def blankPhrase? (line : List Char) : Option (List Char) :=
  match line.reverse with
  | '=' :: rest => if endsInEscape rest.reverse then none else some rest.reverse
  | _ => none

/-- Phrase and translation of a line: split at an equals sign with spaces around it, else at one
that comes last, else at any. -/
def splitLine? (line : List Char) : Option (List Char × List Char) :=
  match splitUnescaped? [' ', '=', ' '] line with
  | some (phrase, translation) => some (Text.trim phrase, Text.trim translation)
  | none =>
    match blankPhrase? line with
    | some phrase => some (Text.trim phrase, [])
    | none =>
      (splitUnescaped? ['='] line).map fun (phrase, translation) =>
        (Text.trim phrase, Text.trim translation)

def lineOf (phrase translation : String) : String :=
  String.ofList (escape phrase.toList)
    ++ (if translation.isEmpty then " =" else " = " ++ String.ofList (escape translation.toList)) ++
    "\n"

def linesOf (table : List (String × String)) : String :=
  String.join (table.map fun (phrase, translation) => lineOf phrase translation)

/-- The file of a template. -/
def render (t : Template) : String :=
  header ++ "\n" ++ linesOf t.entries
    ++ (if t.retained.isEmpty then "" else "\n" ++ retainedMarker ++ "\n" ++ linesOf t.retained)

/-- What a line adds to the template; the flag tells whether it stands behind the marker. -/
def readLine (state : Bool × Template) (line : List Char) : Bool × Template :=
  let (retaining, t) := state
  let body := Text.trim line
  if body = retainedMarker.toList then (true, t)
  else if body.isEmpty || body.head? == some '#' then state
  else match splitLine? body with
  | none => state
  | some (phrase, translation) =>
    if phrase.isEmpty then state
    else
      let phrase := String.ofList (unescape phrase)
      let translation := String.ofList (unescape translation)
      if retaining
        then (true, { t with retained := Text.insertSorted phrase translation t.retained })
      else (false, t.fill phrase translation)

/-- The template of a file. Lines that hold no phrase are passed over. -/
def read (content : String) : Template :=
  ((Text.lines content.toList).foldl readLine (false, {})).2

end Phrasebook.Template
