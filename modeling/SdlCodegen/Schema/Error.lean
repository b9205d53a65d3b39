import SdlCodegen.Sdl.Definition
import SdlCodegen.Text.Quoted

/-!
# Faults of a schema

Why a list of source texts makes no type graph, or a change of a graph is refused.
-/

namespace SdlCodegen

/-- A fault of a schema. -/
inductive SchemaError where
  | document (index : Nat) (cause : Sdl.DocumentError)
  | duplicateType (name : String)
  | unknownExtensionTarget (name : String)
  | extensionKindMismatch (name : String) (actual extension : TypeKind)
  | unknownQueryType (name : String)
  deriving DecidableEq, Repr

/-- What is wrong with the schema. -/
def SchemaError.message : SchemaError → String
  | document index cause =>
    "failed to parse schema source #" ++ Nat.repr index ++ ": " ++ cause.message
  | duplicateType name => "type " ++ Text.quoted name ++ " is defined more than once"
  | unknownExtensionTarget name =>
    "cannot extend " ++ Text.quoted name ++ ": no such type is defined"
  | extensionKindMismatch name actual extension =>
    "cannot extend " ++ Text.quoted name ++ ": it is " ++ actual.describe ++
      ", the extension is " ++ extension.describe
  | unknownQueryType name => "query root type " ++ Text.quoted name ++ " is not defined"

end SdlCodegen
