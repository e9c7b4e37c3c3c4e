import Phrasebook.Decimal.Binary64

/-!
Values of JSON. An object keeps its members in the order of writing, also when a name is repeated.
-/

namespace Phrasebook

/-- A whole number of 64 bits, or else a binary number. -/
inductive JsonNumber
  | whole (value : Int)
  | binary (value : Binary64)
deriving DecidableEq, Repr

inductive Json
  | null
  | boolean (value : Bool)
  | number (value : JsonNumber)
  | text (value : String)
  | array (items : List Json)
  | object (members : List (String × Json))

namespace Json

def natural (n : Nat) : Json := number (.whole n)

def texts (items : List String) : Json := array (items.map text)

end Json
end Phrasebook
