import Phrasebook.Text.Span
import Phrasebook.Script.Mark
import Phrasebook.Script.Numeral

/-!
Syntax trees of scripts. A node has a kind, the span of its source and its parts; what is not
written is an `absent` part and a list of parts is a `group`, so that each kind has a fixed number
of parts, in the order that its comment gives.

Literals in expression position have kinds of their own (`string`, `template`), apart from names of
properties, module sources, types and the text of markup.
-/

namespace Phrasebook.Script

/-- How a member access or a call stands to an optional chain: outside, joined by `?.`, or behind a
part of one. -/
inductive Link
  | plain
  | questioned
  | continued
deriving DecidableEq, Repr

/-- Operators that are words. -/
inductive WordOperator
  | isIn | instanceof | typeof | void | delete
deriving DecidableEq, Repr

inductive Operator
  | mark (mark : Mark)
  | word (word : WordOperator)
deriving DecidableEq, Repr

inductive VariableKind
  | var | let | const | using
deriving DecidableEq, Repr

inductive AccessorKind
  | get | set
deriving DecidableEq, Repr

structure FunctionFlags where
  async : Bool := false
  generator : Bool := false
deriving DecidableEq, Repr

/-- A static chunk of a template literal: its text, if no escape in it names half of a surrogate
pair, and its source. -/
structure TemplateChunk where
  text : Option String
  source : String
deriving DecidableEq, Repr

/-- Words before the name of a class member, in the order of writing. -/
abbrev Modifiers := List String

inductive Kind
  /-- Nothing is written here. -/
  | absent
  /-- A list of parts. -/
  | group
  /-- An expression or a pattern that is malformed and has been passed over. -/
  | invalid
  -- expressions
  | identifier (name : String)
  | privateIdentifier (name : String)
  | this
  | super
  | null
  | boolean (value : Bool)
  | number (value : Numeral)
  | integer (value : Nat)
  | string (value : Option String)
  | pattern (source : String)
  /-- The static chunks; parts: the expressions between them. -/
  | template (chunks : List TemplateChunk)
  /-- Parts: tag, template, type arguments. -/
  | taggedTemplate
  | array
  /-- A place in an array without a value. -/
  | hole
  | spread
  | object
  /-- Parts: key, value. -/
  | keyValue
  | shorthand (name : String)
  /-- A shorthand property with a default value. -/
  | shorthandDefault (name : String)
  /-- Parts: key, function. -/
  | method
  /-- Parts: key, function. -/
  | accessor (accessor : AccessorKind)
  /-- Parts: parameters, decorators, body, type parameters, result type. -/
  | function (flags : FunctionFlags)
  /-- Parts: name, function. -/
  | functionExpression
  /-- Parts: parameters, body, type parameters, result type. -/
  | arrow (async : Bool)
  /-- Parts: name, class. -/
  | classExpression
  | unary (operator : Operator)
  | update (operator : Mark) (before : Bool)
  | binary (operator : Operator)
  | assignment (operator : Mark)
  /-- Parts: test, consequent, alternative. -/
  | conditional
  | sequence
  | await
  | yield (delegate : Bool)
  | parens
  /-- Parts: object, name. -/
  | member (link : Link)
  /-- Parts: object, expression. -/
  | index (link : Link)
  /-- Parts: callee, arguments, type arguments. -/
  | call (link : Link)
  /-- The callee of a dynamic import. -/
  | importCallee
  /-- Parts: callee, arguments, type arguments. -/
  | new
  | newTarget
  | importMeta
  /-- Parts: expression, type. -/
  | typeCast (word : String)
  | nonNull
  /-- Parts: expression, type arguments. -/
  | instantiation
  -- names of properties and members
  | name (name : String)
  | privateName (name : String)
  | stringName (value : Option String)
  | numberName (value : Numeral)
  | integerName (value : Nat)
  /-- A name in brackets, which is an expression. -/
  | computedName
  -- patterns
  /-- Part: the type. -/
  | binding (name : String) (optional : Bool)
  /-- Parts: elements, type. -/
  | arrayPattern (optional : Bool)
  /-- Parts: properties, type. -/
  | objectPattern (optional : Bool)
  /-- Parts: pattern, type. -/
  | rest
  /-- Parts: pattern, default value. -/
  | withDefault
  /-- Parts: key, pattern. -/
  | keyPattern
  /-- Part: default value. -/
  | shorthandPattern (name : String)
  -- statements
  | expressionStatement
  | block
  | empty
  /-- Parts: test, consequent, alternative. -/
  | ifStatement
  /-- Parts: start, test, update, body. -/
  | forStatement
  /-- Parts: left side, right side, body. -/
  | forIn
  /-- Parts: left side, right side, body. -/
  | forOf (await : Bool)
  /-- Parts: test, body. -/
  | whileStatement
  /-- Parts: test, body. -/
  | doWhile
  | returnStatement
  | throwStatement
  /-- Parts: block, handler, finalizer. -/
  | tryStatement
  /-- Parts: parameter, body. -/
  | catchClause
  /-- Parts: subject, cases. -/
  | switchStatement
  /-- Parts: test, statements. -/
  | switchCase
  /-- Parts: label, body. -/
  | labeled
  | breakStatement
  | continueStatement
  | debugger
  /-- Parts: object, body. -/
  | withStatement
  | variableList (kind : VariableKind) (declared : Bool)
  /-- Parts: pattern, initial value. -/
  | declarator (definite : Bool)
  /-- Parts: name, function. -/
  | functionDeclaration (declared : Bool)
  /-- Parts: name, class. -/
  | classDeclaration (declared : Bool)
  -- classes
  /-- Parts: decorators, members, superclass, type parameters, type arguments of the superclass,
  interfaces. -/
  | classBody (isAbstract : Bool)
  /-- Parts: key, parameters, body. -/
  | constructor (modifiers : Modifiers)
  /-- Parts: key, function. -/
  | classMethod (modifiers : Modifiers) (accessor : Option AccessorKind) (optional : Bool)
  /-- Parts: key, value, type, decorators. -/
  | classProperty (modifiers : Modifiers) (optional definite : Bool)
  | staticBlock
  /-- Parts: decorators, pattern. -/
  | parameter (modifiers : Modifiers)
  /-- Parts: expression, type arguments. -/
  | heritage
  -- modules
  /-- Parts: specifiers, source, attributes. -/
  | importDeclaration (typeOnly : Bool)
  | moduleSource (value : Option String)
  | importDefault (name : String)
  | importNamespace (name : String)
  /-- Part: the exported name, if it differs. -/
  | importNamed (name : String) (typeOnly : Bool)
  | exportDeclaration
  | exportDefault
  /-- Parts: specifiers, source, attributes. -/
  | exportNamed (typeOnly : Bool)
  /-- Parts: source, attributes. -/
  | exportAll (typeOnly : Bool)
  /-- Parts: inner name, outer name. -/
  | exportSpecifier (typeOnly : Bool)
  | exportNamespace
  | exportAssignment
  | exportAsNamespace (name : String)
  /-- Part: the entity or module referred to. -/
  | importEquals (name : String) (exported typeOnly : Bool)
  /-- Parts: members. -/
  | enumDeclaration (name : String) (constant declared : Bool)
  /-- Parts: key, value. -/
  | enumMember
  /-- Parts: type parameters, extended types, members. -/
  | interface (name : String) (declared : Bool)
  /-- Parts: type parameters, type. -/
  | typeAlias (name : String) (declared : Bool)
  /-- Parts: name, body. -/
  | moduleDeclaration (isGlobal declared : Bool)
  -- types
  | keywordType (name : String)
  /-- Parts: entity, type arguments. -/
  | typeReference
  /-- Parts: entity, name. -/
  | qualifiedName
  | typeArguments
  | typeParameters
  /-- Parts: constraint, default. -/
  | typeParameter (name : String) (modifiers : Modifiers)
  | literalType
  /-- Parts: types between the chunks. -/
  | templateType (chunks : List String)
  | arrayType
  | tupleType
  /-- Part: the type. -/
  | tupleMember (label : Option String) (optional spread : Bool)
  | unionType
  | intersectionType
  /-- Parts: parameters, type parameters, result type. -/
  | functionType (isAbstract isConstructor : Bool)
  | typeLiteral
  /-- Parts: key, type. -/
  | propertySignature (readonly optional : Bool)
  /-- Parts: key, parameters, type parameters, result type. -/
  | methodSignature (optional : Bool)
  /-- Parts: key, parameters, result type. -/
  | accessorSignature (accessor : AccessorKind)
  /-- Parts: parameters, type parameters, result type. -/
  | callSignature (isConstructor : Bool)
  /-- Parts: parameter, type. -/
  | indexSignature (modifiers : Modifiers)
  /-- Parts: constraint, renaming, type. -/
  | mappedType (name : String) (readonly optional : Option Mark)
  /-- Parts: checked type, bound, consequent, alternative. -/
  | conditionalType
  | inferType
  | typeOperator (name : String)
  /-- Parts: object type, index type. -/
  | indexedType
  /-- Parts: entity, type arguments. -/
  | typeQuery
  /-- Parts: source, qualifier, type arguments, attributes. -/
  | importType
  | parensType
  /-- Part: the type. -/
  | typePredicate (name : String) (asserts : Bool)
  -- markup
  /-- Parts: name, type arguments, attributes, children, closing name. -/
  | element
  | fragment
  | elementName (name : List String)
  /-- Parts: value. -/
  | attribute (name : String)
  | attributeText (text : String)
  | elementText (text : String)
  /-- An expression in braces. -/
  | container
  | spreadContainer
  -- the whole
  /-- Part: the expression. -/
  | decorator
  | module
deriving DecidableEq, Repr

inductive Tree
  | node (kind : Kind) (span : Span) (parts : List Tree)

namespace Tree

def kind : Tree → Kind
  | node k _ _ => k

def span : Tree → Span
  | node _ s _ => s

def parts : Tree → List Tree
  | node _ _ ps => ps

def absent : Tree := node .absent ⟨0, 0⟩ []

def group (parts : List Tree) : Tree := node .group ⟨0, 0⟩ parts

end Tree
end Phrasebook.Script
