import SdlCodegen.Schema.Basic
import SdlCodegen.Sdl.Number
import SdlCodegen.Sdl.Position

/-!
# Definitions of a schema document

A document is a list of definitions: schemas, which name the root operations, named types,
extensions of named types, and directives. Arguments, directives, interfaces, members of unions and
default values are checked against the grammar and then dropped.

A definition that matches the grammar may still be refused, for a number that is too large, a root
operation that is named twice, or a schema without a query. Numbers are checked first.
-/

namespace SdlCodegen.Sdl

/-- A root operation. -/
inductive Operation where
  | query
  | mutation
  | subscription
  deriving DecidableEq, Repr

/-- The word for an operation. -/
def Operation.word : Operation → String
  | query => "query"
  | mutation => "mutation"
  | subscription => "subscription"

/-- A definition of a schema document. -/
inductive Definition where
  | schema (isExtension : Bool) (roots : List (Operation × String))
  | type (type : NamedType)
  | extension (extension : NamedType)
  | directive
  deriving DecidableEq, Repr

/-- The query type that a definition names. -/
def Definition.query? : Definition → Option String
  | schema _ roots => roots.lookup .query
  | _ => none

/-- A number and where it begins. -/
structure PlacedNumber where
  offset : Nat
  number : NumberLiteral

/-- A definition as read: with the numbers in it, in order. -/
structure Clause where
  definition : Definition
  numbers : List PlacedNumber

/-- Why a text is no schema document. -/
inductive DocumentError where
  | unreadable (position : Position)
  | missingQueryRoot
  | multipleRoots (operation : Operation)
  deriving DecidableEq, Repr

/-- What is wrong with the text. -/
def DocumentError.message : DocumentError → String
  | unreadable position =>
    "syntax error at " ++ Nat.repr position.line ++ ":" ++ Nat.repr position.column
  | missingQueryRoot => "schema definition is missing query root"
  | multipleRoots operation => "multiple " ++ operation.word ++ " roots in schema definition"

/-- The first operation that is named again. -/
def repeatedOperation? : List (Operation × String) → List Operation → Option Operation
  | [], _ => none
  | (operation, _) :: roots, seen =>
    if operation ∈ seen then some operation else repeatedOperation? roots (operation :: seen)

/-- Check what the grammar leaves open in a definition. -/
def Definition.check : Definition → Except DocumentError Unit
  | schema isExtension roots =>
    match repeatedOperation? roots [] with
    | some operation => .error (.multipleRoots operation)
    | none =>
      if isExtension ∨ (roots.lookup .query).isSome then .ok () else .error .missingQueryRoot
  | _ => .ok ()

/-- Check a definition of a text, its numbers first. -/
def Clause.check (text : List Char) (clause : Clause) : Except DocumentError Definition :=
  match clause.numbers.find? (·.number.overflows) with
  | some number => .error (.unreadable (Position.ofNumberOffset text number.offset))
  | none => do
    clause.definition.check
    return clause.definition

end SdlCodegen.Sdl
