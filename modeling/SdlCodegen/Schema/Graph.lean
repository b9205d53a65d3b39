import SdlCodegen.Log
import SdlCodegen.Schema.Error

/-!
# Type graphs

The named types of a schema in the order of their definitions, and the name of the query root if one
was chosen. Names are looked up by a linear search. Adding a type refuses a name that is taken and
choosing a root refuses a name that is not, so a graph that is built by these operations has
distinct names and a chosen root that exists.
-/

namespace SdlCodegen

/-- The name of the query root if none is chosen. -/
def defaultQueryType : String := "Query"

/-- The types of a schema in order, and the chosen query root. -/
structure TypeGraph where
  types : List NamedType
  chosenQueryType : Option String
  deriving DecidableEq, Repr

namespace TypeGraph

/-- The graph without types. -/
def empty : TypeGraph := ⟨[], none⟩

/-- The type of a given name. -/
def get? (graph : TypeGraph) (name : String) : Option NamedType :=
  graph.types.find? (·.name == name)

/-- The names of all types, in order. -/
def names (graph : TypeGraph) : List String :=
  graph.types.map (·.name)

/-- Whether a type of a given name is defined. -/
def defines (graph : TypeGraph) (name : String) : Bool :=
  (graph.get? name).isSome

/-- Add a type behind the others. -/
def insert (graph : TypeGraph) (type : NamedType) : Except SchemaError TypeGraph :=
  if graph.defines type.name then .error (.duplicateType type.name)
  else .ok { graph with types := graph.types ++ [type] }

/-- Put another body in the place of that of a given type. -/
def setBody (graph : TypeGraph) (name : String) (body : TypeBody) : TypeGraph :=
  { graph with
    types := graph.types.map fun type => if type.name = name then { type with body } else type }

/-- Add the members of an extension to the type that it names. -/
def extend (graph : TypeGraph) (extension : NamedType) : Logged SchemaError TypeGraph :=
  match graph.get? extension.name with
  | none => .fail (.unknownExtensionTarget extension.name)
  | some base => do
    .emit (.applyingExtension extension.name)
    match base.body.extend? extension.body with
    | some body => return graph.setBody extension.name body
    | none => .fail (.extensionKindMismatch extension.name base.kind extension.kind)

/-- Choose the query root, which has to exist. -/
def setQueryType (graph : TypeGraph) (name : String) : Except SchemaError TypeGraph :=
  if graph.defines name then .ok { graph with chosenQueryType := some name }
  else .error (.unknownQueryType name)

/-- The name of the query root, chosen or not. -/
def queryType (graph : TypeGraph) : String :=
  graph.chosenQueryType.getD defaultQueryType

/-- The query root, if there is one. -/
def queryRoot? (graph : TypeGraph) : Option NamedType :=
  graph.get? graph.queryType

/-- The types that are declared: all but the query root. -/
def declarable (graph : TypeGraph) : List NamedType :=
  graph.types.filter (·.name != graph.queryType)

end TypeGraph

end SdlCodegen
