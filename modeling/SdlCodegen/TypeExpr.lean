import SdlCodegen.Identifier
import SdlCodegen.Text.Cut
import SdlCodegen.TypeRef

/-!
# Type expressions of the generated code

A type expression is a name under generic types of one argument. A schema type resolves to one: the
outermost layer of a reference is optional unless it is non-null, and elements of lists are never
optional, whatever their own nullability. Only a doubled non-null wrapper cannot be resolved.

A name that a reference is built from need not be an identifier, so the text of an expression is
read back before it is printed. `read?` accepts a name under single-argument generics and nothing
else of the generated language's types.
-/

namespace SdlCodegen

/-- A type of the generated code. -/
inductive TypeExpr where
  | name (ident : String)
  | generic (head : String) (argument : TypeExpr)
  deriving DecidableEq, Repr

namespace TypeExpr

/-- The expression as written. -/
def text : TypeExpr → String
  | name ident => ident
  | generic head argument => head ++ "<" ++ argument.text ++ ">"

/-- The name under all generic types. -/
def leaf : TypeExpr → String
  | name ident => ident
  | generic _ argument => argument.leaf

/-- A type or nothing. -/
def optional (type : TypeExpr) : TypeExpr :=
  generic "Option" type

/-- A sequence of a type. -/
def sequence (type : TypeExpr) : TypeExpr :=
  generic "Vec" type

/-- A name under generic types, outermost first. -/
def wrap (heads : List String) (ident : String) : TypeExpr :=
  heads.foldr generic (name ident)

/-- Read an expression: the heads before each `<`, a name, and as many `>` as heads. -/
def read? (text : String) : Option TypeExpr :=
  let segments := Text.pieces '<' text.toList
  let heads := segments.dropLast.map String.ofList
  let last := segments.getLastD []
  let ident := String.ofList (last.takeWhile (· != '>'))
  if last.dropWhile (· != '>') = List.replicate heads.length '>' ∧
      (heads ++ [ident]).all Identifier.isTypeName then
    some (wrap heads ident)
  else none

end TypeExpr

/-- A reference that resolves to no type expression. -/
structure UnsupportedShape where
  type : TypeRef
  deriving DecidableEq, Repr

/-- What is wrong with the reference. -/
def UnsupportedShape.message (shape : UnsupportedShape) : String :=
  "unsupported type shape `" ++ shape.type.text ++ "`"

namespace TypeRef

/-- The element type of a list: nullability is dropped at every layer. -/
def resolveElement : TypeRef → TypeExpr
  | named name => .name name
  | list element => .sequence element.resolveElement
  | nonNull inner => inner.resolveElement

/-- The type of a field or of a query result. -/
def resolve : TypeRef → Except UnsupportedShape TypeExpr
  | named name => .ok (.optional (.name name))
  | list element => .ok (.optional (.sequence element.resolveElement))
  | nonNull (named name) => .ok (.name name)
  | nonNull (list element) => .ok (.sequence element.resolveElement)
  | nonNull (nonNull inner) => .error ⟨nonNull (nonNull inner)⟩

end TypeRef

end SdlCodegen
