/-!
# Type references

The type written at a field of a schema: a name under any number of list and non-null wrappers. The
reader of schema text never puts a non-null wrapper directly under another one, but references that
are built by hand may.
-/

namespace SdlCodegen

/-- A reference to a schema type as written at a field. -/
inductive TypeRef where
  | named (name : String)
  | list (element : TypeRef)
  | nonNull (inner : TypeRef)
  deriving DecidableEq, Repr

namespace TypeRef

/-- The notation of the schema language. -/
def text : TypeRef → String
  | named name => name
  | list element => "[" ++ element.text ++ "]"
  | nonNull inner => inner.text ++ "!"

/-- Rename the type that is referred to and keep the wrappers. -/
def mapNames (f : String → String) : TypeRef → TypeRef
  | named name => named (f name)
  | list element => list (element.mapNames f)
  | nonNull inner => nonNull (inner.mapNames f)

/-- The name under all wrappers. -/
def leaf : TypeRef → String
  | named name => name
  | list element => element.leaf
  | nonNull inner => inner.leaf

/-- The number of list wrappers. -/
def listDepth : TypeRef → Nat
  | named _ => 0
  | list element => element.listDepth + 1
  | nonNull inner => inner.listDepth

/-- Whether the reference is one non-null wrapper directly under another. -/
def isDoubledNonNull : TypeRef → Bool
  | nonNull (nonNull _) => true
  | _ => false

/-- Renaming acts on the leaf. -/
theorem leaf_mapNames (f : String → String) (type : TypeRef) :
    (type.mapNames f).leaf = f type.leaf := by
  induction type with
  | named name => rfl
  | list element ih => exact ih
  | nonNull inner ih => exact ih

end TypeRef

end SdlCodegen
