import Phrasebook.Resource.Basic
import Phrasebook.Script.Parse
import Phrasebook.Text.Space

/-!
Module files: a module of resources as the object literal that a script exports by default. Written
files use plain names and JSON text; read files may use all that stands for the same data.
-/

namespace Phrasebook

namespace ResourceNode

/-- A name of a member, in quotes unless it is a plain identifier. -/
def memberName (name : String) : List Char :=
  if Text.isIdentifier name then name.toList else Json.quoted name

mutual

def literal (depth : Nat) : ResourceNode → List Char
  | text value => Json.quoted value
  | scalar value => value.toText.toList
  | group [] => ['\x7b', '\x7d']
  | group (member :: members) =>
    '\x7b' :: memberLiteral (depth + 1) member ++ memberLiterals (depth + 1) members
      ++ Json.newLine depth ++ ['\x7d']

def memberLiteral (depth : Nat) : String × ResourceNode → List Char
  | (name, node) => Json.newLine depth ++ memberName name ++ ':' :: ' ' :: literal depth node

def memberLiterals (depth : Nat) : List (String × ResourceNode) → List Char
  | [] => []
  | member :: members => ',' :: memberLiteral depth member ++ memberLiterals depth members

end

def moduleText (node : ResourceNode) : String :=
  "export default " ++ String.ofList (node.literal 0) ++ ";\n"

end ResourceNode

namespace ModuleFile

open Script

/-- Why a file holds no module of resources. -/
inductive Fault
  | unreadable (error : SyntaxError)
  | noExport
  | notAnObject
  | spread
  | unsupportedProperty
  | computedKey
  | invalidKey
  | invalidValue
  | unsupportedValue
deriving DecidableEq, Repr

def Fault.message (file : String) : Fault → String
  | unreadable error => s!"Failed to parse {file}: {error.message}"
  | noExport => s!"{file} has no default export"
  | notAnObject => s!"default export of {file} is not an object literal"
  | spread => s!"spread element in {file}"
  | unsupportedProperty => s!"unsupported property in {file}"
  | computedKey => s!"computed key in {file}"
  | invalidKey => s!"invalid string key in {file}"
  | invalidValue => s!"invalid string value in {file}"
  | unsupportedValue => s!"unsupported value in {file}"

def binary (value : Numeral) : Binary64 := Binary64.ofDecimal false value.mantissa value.exponent

/-- A number; one that is too large is no value. -/
def scalarOf (value : Numeral) : Scalar :=
  match binary value with
  | .infinite _ => .null
  | value => .number (.binary value)

def keyOf : Tree → Except Fault String
  | .node (.name name) _ _ => .ok name
  | .node (.stringName (some name)) _ _ => .ok name
  | .node (.stringName none) _ _ => .error .invalidKey
  | .node (.numberName value) _ _ => .ok (binary value).plain
  | _ => .error .computedKey

mutual

def valueOf : Tree → Except Fault ResourceNode
  | .node .parens _ [inner] => valueOf inner
  | .node .object _ properties => (membersOf properties).map fun ms => .group (Text.tableOf ms)
  | .node (.string (some value)) _ _ => .ok (.text value)
  | .node (.string none) _ _ => .error .invalidValue
  | .node (.template chunks) _ [] => .ok (.text (String.join (chunks.filterMap TemplateChunk.text)))
  | .node (.number value) _ _ => .ok (.scalar (scalarOf value))
  | .node (.boolean value) _ _ => .ok (.scalar (.boolean value))
  | _ => .error .unsupportedValue

/-- The members of an object literal, in the order of writing. -/
def membersOf : List Tree → Except Fault (List (String × ResourceNode))
  | [] => .ok []
  | .node .keyValue _ [key, value] :: properties => do
    let name ← keyOf key
    let node ← valueOf value
    let members ← membersOf properties
    return (name, node) :: members
  | .node .spread _ _ :: _ => .error .spread
  | _ :: _ => .error .unsupportedProperty

end

/-- The expression that a script exports by default. -/
def defaultExport? (items : List Tree) : Option Tree :=
  items.findSome? fun
    | .node .exportDefault _ [.node kind span parts] =>
      match kind with
      | .functionDeclaration _ | .classDeclaration _ | .interface _ _ => none
      | _ => some (.node kind span parts)
    | _ => none

/-- The object literal inside parentheses. -/
def objectOf : Tree → Except Fault (List (String × ResourceNode))
  | .node .parens _ [inner] => objectOf inner
  | .node .object _ properties => (membersOf properties).map Text.tableOf
  | _ => .error .notAnObject

/-- The members of the module that a source exports. -/
def read (source : String) : Except Fault (List (String × ResourceNode)) :=
  match Script.parse .javaScript source.toList with
  | .error error => .error (.unreadable error)
  | .ok script =>
    match defaultExport? script.items with
    | none => .error .noExport
    | some tree => objectOf tree

end ModuleFile
end Phrasebook
