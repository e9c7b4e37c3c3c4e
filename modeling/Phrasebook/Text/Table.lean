/-!
Tables with text keys. In a table in the order of entry, a key keeps the place where it was first
put. The order of a sorted table is that of the bytes, which is also that of the characters.
-/

namespace Phrasebook.Text

/-- Puts a value under a key, in place of the one that is there. -/
def put (key : String) (value : α) : List (String × α) → List (String × α)
  | [] => [(key, value)]
  | (other, old) :: rest =>
    if key = other then (key, value) :: rest else (other, old) :: put key value rest

/-- The table of a list of pairs; of two with the same key the later value stays, at the earlier
place. -/
def tableOf (pairs : List (String × α)) : List (String × α) :=
  pairs.foldl (fun table (key, value) => put key value table) []

/-- Puts a value under a key that has none. -/
def putNew (key : String) (value : α) (table : List (String × α)) : List (String × α) :=
  if (table.lookup key).isSome then table else put key value table

/-- Puts a value under a key, in place of the one that is there. -/
def insertSorted (key : String) (value : α) : List (String × α) → List (String × α)
  | [] => [(key, value)]
  | (other, old) :: rest =>
    if key = other then (key, value) :: rest
    else if key < other then (key, value) :: (other, old) :: rest
    else (other, old) :: insertSorted key value rest

/-- The table of a list of pairs; of two with the same key the later one stays. -/
def sortedTable (pairs : List (String × α)) : List (String × α) :=
  pairs.foldl (fun table (key, value) => insertSorted key value table) []

end Phrasebook.Text
