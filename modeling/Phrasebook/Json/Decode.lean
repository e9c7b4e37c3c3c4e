import Phrasebook.Json.Value

/-!
Records read from JSON. A record is an object whose members may come in any order, or an array with
the values in the order of the fields; members that are no fields are passed over.
-/

namespace Phrasebook

inductive DecodeError
  | wrongType (expected : String)
  | missing (name : String)
  | repeated (name : String)
  | unknown (name : String)
  | tooLong
deriving DecidableEq, Repr

namespace DecodeError

def message : DecodeError → String
  | wrongType expected => s!"invalid type, expected {expected}"
  | missing name => s!"missing field {name}"
  | repeated name => s!"duplicate field {name}"
  | unknown name => s!"unknown {name}"
  | tooLong => "too many elements"

end DecodeError

abbrev Decoder (α : Type) := Json → Except DecodeError α

namespace Decoder

def text : Decoder String
  | .text value => .ok value
  | _ => .error (.wrongType "a string")

def boolean : Decoder Bool
  | .boolean value => .ok value
  | _ => .error (.wrongType "a boolean")

/-- A whole number that is not negative. -/
def natural : Decoder Nat
  | .number (.whole (.ofNat value)) => .ok value
  | _ => .error (.wrongType "a non-negative integer")

def list (item : Decoder α) : Decoder (List α)
  | .array items => items.mapM item
  | _ => .error (.wrongType "an array")

/-- `null` stands for nothing. -/
def optional (item : Decoder α) : Decoder (Option α)
  | .null => .ok none
  | value => some <$> item value

/-- One of a few words, also written as an object with this word as its only member. -/
def word (words : List (String × α)) : Decoder α
  | .text name | .object [(name, .null)] =>
    match words.lookup name with
    | some value => .ok value
    | none => .error (.unknown name)
  | _ => .error (.wrongType "a word")

/-- The only member with this name. -/
def member? (members : List (String × Json)) (name : String) : Except DecodeError (Option Json) :=
  match members.filter (·.1 == name) with
  | [] => .ok none
  | [(_, value)] => .ok (some value)
  | _ => .error (.repeated name)

/-- The values of the fields, in their order. -/
def fields (names : List String) : Decoder (List (Option Json))
  | .object members => names.mapM (member? members)
  | .array items =>
    if names.length < items.length then .error .tooLong
    else .ok (names.mapIdx fun i _ => items[i]?)
  | _ => .error (.wrongType "an object")

end Decoder

/-- The values of a record's fields, by name. -/
structure JsonRecord where
  values : List (String × Option Json)

namespace JsonRecord

def read (names : List String) (json : Json) : Except DecodeError JsonRecord := do
  let values ← Decoder.fields names json
  return ⟨names.zip values⟩

def value? (record : JsonRecord) (name : String) : Option Json := (record.values.lookup name).join

def required (record : JsonRecord) (name : String) (decoder : Decoder α) : Except DecodeError α :=
  match record.value? name with
  | some value => decoder value
  | none => .error (.missing name)

/-- A field that may be left out. -/
def withDefault (record : JsonRecord) (name : String) (decoder : Decoder α) (default : α) :
    Except DecodeError α :=
  match record.value? name with
  | some value => decoder value
  | none => .ok default

end JsonRecord
end Phrasebook
