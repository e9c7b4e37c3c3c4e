import Phrasebook.Extraction.Settings
import Phrasebook.Script.Parse

/-!
Literals of a script that hold text of the writing system. Only literals in expression position
count; those in the arguments of diagnostic calls, in the metadata of routes and in the names of
modules are found and marked as left alone.
-/

namespace Phrasebook

open Script

/-- What a place in a script lies in. -/
structure Scope where
  /-- A call on a diagnostic object. -/
  diagnostic : Bool := false
  /-- The value of a route configuration. -/
  routes : Bool := false
  /-- An array in a route configuration. -/
  routeList : Bool := false
  /-- The metadata of a route. -/
  metadata : Bool := false
deriving DecidableEq, Repr

/-- A literal with text of the writing system. -/
structure LiteralFinding where
  span : Span
  site : Site
  /-- What the literal lies in. -/
  scope : Scope
  /-- The text of a string, or the static chunks of a template literal. -/
  chunks : List String
  /-- Expressions between the chunks. -/
  expressions : List Tree
  /-- Why the literal is left alone. -/
  skipped : Option SkipReason

/-- How a part of a node is searched. -/
inductive Role
  | searched (scope : Scope)
  /-- It is a literal that belongs to a tag function; what is between its chunks is searched. -/
  | tagged (scope : Scope)
  /-- It holds the arguments of a call that loads a module. -/
  | loadArguments (scope : Scope)
  /-- It is an argument of a call that loads a module. -/
  | loadArgument (scope : Scope)
  /-- It is the name of a module, if one is written. -/
  | source
  | passedOver

namespace LiteralFinding

variable (settings : Settings) (comments : List Span)

/-- The first reason to leave a literal alone. -/
def exclusion (scope : Scope) (span : Span) : Option SkipReason :=
  if comments.any (·.covers span) then some .comment
  else if scope.diagnostic then some .diagnosticCall
  else if scope.metadata then some .routeMetadata
  else none

/-- The text of a chunk; a chunk that has none counts as its source. -/
def chunkText (chunk : TemplateChunk) : String := chunk.text.getD chunk.source

/-- The finding of a node that is a literal: of a string with text of the writing system, or of a
template literal one of whose chunks holds some. -/
def ofNode? (scope : Scope) (kind : Kind) (span : Span) (parts : List Tree) :
    Option LiteralFinding :=
  match kind with
  | .string (some value) =>
    if settings.writing.occursIn value then
      some ⟨span, .literal, scope, [value], [], exclusion comments scope span⟩
    else none
  | .template chunks =>
    let texts := chunks.map chunkText
    if texts.any settings.writing.occursIn then
      some ⟨span, .templateLiteral, scope, texts, parts, exclusion comments scope span⟩
    else none
  | _ => none

/-- The name of a module, if it is written with the writing system. -/
def ofSource (span : Span) : Option String → List LiteralFinding
  | some value =>
    if settings.writing.occursIn value then
      [⟨span, .literal, {}, [value], [], some .moduleSpecifier⟩]
    else []
  | none => []

/-- An argument that names a module to load: a string, also a spread one. -/
def moduleName? : Tree → Option (Span × Option String)
  | .node (.string value) span _ | .node .spread _ [.node (.string value) span _] =>
    some (span, value)
  | _ => none

/-- Whether a call loads a module. -/
def isModuleLoad : Tree → Bool
  | .node .importCallee _ _ => true
  | .node (.identifier name) _ _ => name == "require"
  | _ => false

/-- Whether a call's callee is a member of a diagnostic object. -/
def isDiagnosticCallee : Tree → Bool
  | .node (.member .plain) _ (.node (.identifier name) _ _ :: _)
  | .node (.index .plain) _ (.node (.identifier name) _ _ :: _) => settings.isDiagnostic name
  | _ => false

/-- The name of a property, where it is a word or a text. -/
def propertyName : Tree → String
  | .node (.name name) _ _ => name
  | .node (.stringName (some name)) _ _ => name
  | _ => ""

/-- Whether a variable is named like a route configuration. -/
def isRouteVariable : Tree → Bool
  | .node (.binding name _) _ _ => settings.isRouteName name
  | _ => false

/-- The scope of a property's value. -/
def propertyScope (scope : Scope) (key : Tree) : Scope :=
  let name := propertyName key
  if settings.isRouteName name then { scope with routes := true }
  else if name == "meta" && scope.routes && scope.routeList then { scope with metadata := true }
  else scope

def everywhere (scope : Scope) (parts : List Tree) : List Role := parts.map fun _ => .searched scope

/-- How the parts of a node are searched; those without a role are passed over. -/
def rolesOf (scope : Scope) : Kind → List Tree → List Role
  | .string _, _ => []
  | .taggedTemplate, [_, _, _] => [.searched scope, .tagged scope]
  | .call .plain, [callee, arguments, types] =>
    if isModuleLoad callee then [.passedOver, .loadArguments scope]
    else
      let scope := if isDiagnosticCallee settings callee then { scope with diagnostic := true }
        else scope
      everywhere scope [callee, arguments, types]
  | .importDeclaration _, _ | .exportNamed _, _ => [.passedOver, .source]
  | .exportAll _, _ => [.source]
  | .enumDeclaration _ _ _, _ => []
  | .declarator _, [target, value] =>
    let scope := if isRouteVariable settings target then { scope with routes := true } else scope
    everywhere scope [target, value]
  | .keyValue, [key, _] => [.passedOver, .searched (propertyScope settings scope key)]
  | .array, parts =>
    everywhere (if scope.routes then { scope with routeList := true } else scope) parts
  | _, parts => everywhere scope parts

mutual

/-- The literals of a tree in the order of its parts. -/
def ofTree (scope : Scope) : Tree → List LiteralFinding
  | .node kind span parts =>
    match ofNode? settings comments scope kind span parts with
    | some finding => [finding]
    | none => ofParts (rolesOf settings scope kind parts) parts

def ofParts : List Role → List Tree → List LiteralFinding
  | role :: roles, .node kind span parts :: trees =>
    (match role with
      | .searched scope => ofTree scope (.node kind span parts)
      | .tagged scope => ofParts (everywhere scope parts) parts
      | .loadArguments scope => ofParts (parts.map fun _ => .loadArgument scope) parts
      | .loadArgument scope =>
        match moduleName? (.node kind span parts) with
        | some (span, value) => ofSource settings span value
        | none => ofTree scope (.node kind span parts)
      | .source =>
        match kind with
        | .moduleSource value => ofSource settings span value
        | _ => []
      | .passedOver => []) ++ ofParts roles trees
  | _, _ => []

end

/-- The literals of a script. -/
def ofScript (settings : Settings) (script : Document) : List LiteralFinding :=
  ofParts settings script.comments (everywhere {} script.items) script.items

end LiteralFinding
end Phrasebook
