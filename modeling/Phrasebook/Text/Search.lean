/-!
Searching and replacing by a fixed pattern.
-/

namespace Phrasebook.Text

/-- What stands before the first occurrence of the pattern, and what stands after it. -/
def splitAtFirst? (pattern : List Char) : List Char → Option (List Char × List Char)
  | [] => if pattern.isEmpty then some ([], []) else none
  | c :: cs =>
    if pattern.isPrefixOf (c :: cs) then some ([], (c :: cs).drop pattern.length)
    else (splitAtFirst? pattern cs).map fun (before, after) => (c :: before, after)

def contains (pattern cs : List Char) : Bool := (splitAtFirst? pattern cs).isSome

/-- Replaces one character wherever it stands. -/
def replaceChar (c : Char) (new : String) (text : String) : String :=
  String.ofList (text.toList.flatMap fun d => if d = c then new.toList else [d])

/-- The pieces between the occurrences of one character; always at least one piece. -/
def splitOnChar (sep : Char) : List Char → List (List Char)
  | [] => [[]]
  | c :: cs =>
    match splitOnChar sep cs with
    | [] => [[c]]
    | piece :: rest => if c = sep then [] :: piece :: rest else (c :: piece) :: rest

def splitDots (text : String) : List String :=
  (splitOnChar '.' text.toList).map String.ofList

end Phrasebook.Text
