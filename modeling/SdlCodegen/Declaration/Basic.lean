import SdlCodegen.TypeExpr
import SdlCodegen.Schema.Basic

/-!
# Declarations of the generated code

What is generated for a schema, before it is printed: a declaration per type and a resolver stub per
field of the query root. Names of types, fields and variants are already escaped identifiers; the
field that a stub belongs to keeps its name in the schema.
-/

namespace SdlCodegen

/-- A field of a generated struct. -/
structure FieldDeclaration where
  ident : String
  type : TypeExpr
  comment : Option String
  deriving DecidableEq, Repr

/-- A variant of a generated enum. -/
structure VariantDeclaration where
  ident : String
  comment : Option String
  deriving DecidableEq, Repr

/-- A part of the generated code. -/
inductive Declaration where
  | scalar (name : String) (comment : Option String)
  | object (name : String) (comment : Option String) (fields : List FieldDeclaration)
  | enum (name : String) (comment : Option String) (variants : List VariantDeclaration)
  | query (field : String) (method : String) (result : TypeExpr) (comment : Option String)
  deriving DecidableEq, Repr

/-- Two names that become the same identifier. -/
structure Clash where
  ident : String
  first : String
  second : String
  deriving DecidableEq, Repr

/-- The first clash in a list of names with their identifiers, after names that have been seen. -/
def firstClashAfter (seen : List (String × String)) : List (String × String) → Option Clash
  | [] => none
  | (name, ident) :: rest =>
    match seen.find? (·.2 == ident) with
    | some (first, _) => some ⟨ident, first, name⟩
    | none => firstClashAfter ((name, ident) :: seen) rest

/-- The first clash in a list of names with their identifiers. -/
def firstClash (names : List (String × String)) : Option Clash :=
  firstClashAfter [] names

/-- Where identifiers have to differ. -/
inductive Scope where
  | schemaTypes
  | type (name : String)
  deriving DecidableEq, Repr

/-- The scope in words. -/
def Scope.describe : Scope → String
  | schemaTypes => "the schema types"
  | type name => "type `" ++ name ++ "`"

/-- Why no code is generated. -/
inductive GenerateError where
  | unsupportedShape (owner field : String) (shape : UnsupportedShape)
  | unsupportedKind (name : String) (kind : BareKind)
  | invalidTypeExpression (owner field : String) (expression : TypeExpr)
  | duplicateIdentifier (scope : Scope) (clash : Clash)
  | invalidIdentifier (name : String)
  deriving DecidableEq, Repr

/-- What stands in the way. -/
def GenerateError.message : GenerateError → String
  | unsupportedShape owner field shape =>
    "field `" ++ owner ++ "." ++ field ++ "` has an " ++ shape.message
  | unsupportedKind name kind =>
    "type `" ++ name ++ "` is " ++ kind.describe ++ ", which cannot be generated"
  | invalidTypeExpression owner field expression =>
    "field `" ++ owner ++ "." ++ field ++ "` resolved to `" ++ expression.text ++
      "`, which is not a valid Rust type"
  | duplicateIdentifier scope clash =>
    "`" ++ clash.first ++ "` and `" ++ clash.second ++ "` in " ++ scope.describe ++
      " both become `" ++ clash.ident ++ "`"
  | invalidIdentifier name => "`" ++ name ++ "` is not a valid identifier"

end SdlCodegen
