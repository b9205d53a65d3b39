import SdlCodegen.TypeRef

/-!
# Named types of a schema

A named type has a kind and, for objects and enums, members in the order of the schema text. Of
interfaces, unions and input objects only the name and the description are kept: no code is
generated from them.
-/

namespace SdlCodegen

/-- The kinds of type that are kept without members. -/
inductive BareKind where
  | interface
  | union
  | inputObject
  deriving DecidableEq, Repr

/-- The kind with its article. -/
def BareKind.describe : BareKind → String
  | interface => "an interface"
  | union => "a union"
  | inputObject => "an input object"

/-- The kinds of named type. -/
inductive TypeKind where
  | scalar
  | object
  | enum
  | bare (kind : BareKind)
  deriving DecidableEq, Repr

/-- The kind with its article. -/
def TypeKind.describe : TypeKind → String
  | scalar => "a scalar"
  | object => "an object type"
  | enum => "an enum"
  | bare kind => kind.describe

/-- The class of declaration that the kind is given. -/
def TypeKind.className : TypeKind → String
  | scalar => "Scalar"
  | object => "Object"
  | enum => "Enum"
  | bare kind => "Unsupported: " ++ kind.describe

/-- A field of an object type. -/
structure Field where
  name : String
  description : Option String
  type : TypeRef
  deriving DecidableEq, Repr

/-- A value of an enum. -/
structure EnumValue where
  name : String
  description : Option String
  deriving DecidableEq, Repr

/-- What a named type consists of. -/
inductive TypeBody where
  | scalar
  | object (fields : List Field)
  | enum (values : List EnumValue)
  | bare (kind : BareKind)
  deriving DecidableEq, Repr

namespace TypeBody

/-- The kind of the type. -/
def kind : TypeBody → TypeKind
  | scalar => .scalar
  | object _ => .object
  | enum _ => .enum
  | bare kind => .bare kind

/-- The fields of an object type, none for the other kinds. -/
def fields : TypeBody → List Field
  | object fields => fields
  | _ => []

/-- The values of an enum, none for the other kinds. -/
def values : TypeBody → List EnumValue
  | enum values => values
  | _ => []

/-- Add the members of an extension of the same kind behind those already there. -/
def extend? : TypeBody → TypeBody → Option TypeBody
  | scalar, scalar => some scalar
  | object fields, object more => some (object (fields ++ more))
  | enum values, enum more => some (enum (values ++ more))
  | bare kind, bare other => if kind = other then some (bare kind) else none
  | _, _ => none

/-- A body takes an extension exactly if the kinds agree. -/
theorem extend?_isSome_iff (body extension : TypeBody) :
    (body.extend? extension).isSome ↔ body.kind = extension.kind := by
  cases body <;> cases extension <;> simp [extend?, kind]

/-- An extension keeps the kind. -/
theorem kind_of_extend? {body extension extended : TypeBody}
    (h : body.extend? extension = some extended) : extended.kind = body.kind := by
  cases body <;> cases extension <;> simp [extend?] at h <;> grind [kind]

end TypeBody

/-- A type of a schema. -/
structure NamedType where
  name : String
  description : Option String
  body : TypeBody
  deriving DecidableEq, Repr

namespace NamedType

/-- The kind of the type. -/
def kind (type : NamedType) : TypeKind := type.body.kind

/-- The fields of an object type, none for the other kinds. -/
def fields (type : NamedType) : List Field := type.body.fields

/-- The values of an enum, none for the other kinds. -/
def values (type : NamedType) : List EnumValue := type.body.values

end NamedType

end SdlCodegen
