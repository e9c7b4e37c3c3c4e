/-!
Text inside a single-quoted string of the script language: backslash, quote, line feed and carriage
return are written as escapes, all else as itself.
-/

namespace Phrasebook.Text

def quoteChar : Char → List Char
  | '\\' => ['\\', '\\']
  | '\'' => ['\\', '\'']
  | '\n' => ['\\', 'n']
  | '\r' => ['\\', 'r']
  | c => [c]

def quoteChars (cs : List Char) : List Char := cs.flatMap quoteChar

def quoteText (text : String) : String := String.ofList (quoteChars text.toList)

end Phrasebook.Text
