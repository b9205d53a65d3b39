import SdlCodegen.Declaration.Basic
import SdlCodegen.Naming
import SdlCodegen.Schema.Graph

/-!
# From a type graph to declarations

Every type but the query root is declared, in order, and then every field of the query root gets a
stub. Types of which only the name is known cannot be declared: they are an error or are left out
with a warning. Names that become one identifier are an error, within each type and among the
declared types. Stubs are not compared with anything.
-/

namespace SdlCodegen

/-- What is done with a type that cannot be declared. -/
inductive UnsupportedAction where
  | deny
  | warn
  deriving DecidableEq, Repr

/-- Fail on the first two names in a scope that become one identifier. -/
def ensureUnique (scope : Scope) (names : List (String × String)) : Except GenerateError Unit :=
  match firstClash names with
  | some clash => .error (.duplicateIdentifier scope clash)
  | none => .ok ()

/-- The struct field for a field of the type `owner`. -/
def Field.declare (owner : String) (field : Field) : Except GenerateError FieldDeclaration :=
  match (field.type.mapNames Identifier.escape).resolve with
  | .ok type => .ok ⟨Identifier.escape (fieldName field.name), type, field.description⟩
  | .error shape => .error (.unsupportedShape owner field.name shape)

/-- The stub for a field of the query root `owner`. -/
def Field.declareQuery (owner : String) (field : Field) : Except GenerateError Declaration := do
  let declared ← field.declare owner
  return .query field.name declared.ident declared.type declared.comment

/-- The variant for a value of an enum. -/
def EnumValue.declare (value : EnumValue) : VariantDeclaration :=
  ⟨Identifier.escape (variantName value.name), value.description⟩

/-- The declaration of a type with members. -/
def NamedType.declareObject (type : NamedType) (fields : List Field) :
    Except GenerateError Declaration := do
  let declared ← fields.mapM (·.declare type.name)
  ensureUnique (.type type.name) ((fields.map (·.name)).zip (declared.map (·.ident)))
  return .object (Identifier.escape type.name) type.description declared

/-- The declaration of an enum. -/
def NamedType.declareEnum (type : NamedType) (values : List EnumValue) :
    Except GenerateError Declaration := do
  let variants := values.map EnumValue.declare
  ensureUnique (.type type.name) ((values.map (·.name)).zip (variants.map (·.ident)))
  return .enum (Identifier.escape type.name) type.description variants

/-- The declaration of a type, or nothing for a type that is left out. -/
def NamedType.declare (action : UnsupportedAction) (type : NamedType) :
    Logged GenerateError (Option Declaration) :=
  match type.body with
  | .bare kind =>
    match action with
    | .deny => .fail (.unsupportedKind type.name kind)
    | .warn => do
      .emit (.skipped type.name kind)
      return none
  | .scalar => classified (.ok (.scalar (Identifier.escape type.name) type.description))
  | .object fields => classified (type.declareObject fields)
  | .enum values => classified (type.declareEnum values)
where
  classified (result : Except GenerateError Declaration) :
      Logged GenerateError (Option Declaration) := do
    let declaration ← .ofExcept result
    .emit (.classified type.name type.kind)
    return some declaration

namespace TypeGraph

/-- The declarations of the types, each with the name of its type. -/
def declareTypes (graph : TypeGraph) (action : UnsupportedAction) :
    Logged GenerateError (List (String × Declaration)) := do
  let declared ← graph.declarable.mapM fun type => do
    return (← type.declare action).map (type.name, ·)
  return declared.filterMap id

/-- The stubs for the fields of the query root. -/
def declareQueries (graph : TypeGraph) : Logged GenerateError (List Declaration) :=
  match graph.queryRoot? with
  | some root => .ofExcept (root.fields.mapM (·.declareQuery root.name))
  | none => do
    .emit (.noQueryRoot graph.queryType)
    return []

/-- The declarations for a type graph. -/
def declarations (graph : TypeGraph) (action : UnsupportedAction) :
    Logged GenerateError (List Declaration) := do
  let declared ← graph.declareTypes action
  .ofExcept (ensureUnique .schemaTypes
    (declared.map fun (name, _) => (name, Identifier.escape name)))
  let queries ← graph.declareQueries
  return declared.map (·.2) ++ queries

end TypeGraph

end SdlCodegen
