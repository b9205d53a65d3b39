import SdlCodegen.Schema.Graph
import SdlCodegen.Sdl.Document

/-!
# From source texts to a type graph

The sources are read one after the other, and the types of each are added in order. Extensions wait
until every source is read, so an extension may come before the type that it extends. The last
schema definition that names a query decides the query root, whose existence is checked at the end.
-/

namespace SdlCodegen

/-- A type graph under construction: the extensions are not yet applied and the query root is not
yet checked. -/
structure SchemaDraft where
  types : TypeGraph
  extensions : List NamedType
  query : Option String

namespace SchemaDraft

/-- The draft before the first source. -/
def empty : SchemaDraft := ⟨.empty, [], none⟩

/-- Take in a definition. -/
def add (draft : SchemaDraft) (definition : Sdl.Definition) : Except SchemaError SchemaDraft :=
  match definition with
  | .schema .. => .ok { draft with query := definition.query? <|> draft.query }
  | .type type => do return { draft with types := ← draft.types.insert type }
  | .extension extension => .ok { draft with extensions := draft.extensions ++ [extension] }
  | .directive => .ok draft

/-- Take in a source text, the one of a given index. -/
def addSource (draft : SchemaDraft) (index : Nat) (text : String) :
    Except SchemaError SchemaDraft := do
  let definitions ← (Sdl.definitionsOf text).mapError (.document index)
  definitions.foldlM add draft

/-- Take in source texts, the first of them with a given index. -/
def addSources (draft : SchemaDraft) (index : Nat) : List String → Except SchemaError SchemaDraft
  | [] => .ok draft
  | text :: texts => do (← draft.addSource index text).addSources (index + 1) texts

/-- Apply the extensions and check the query root. -/
def finish (draft : SchemaDraft) : Logged SchemaError TypeGraph := do
  let extended ← draft.extensions.foldlM TypeGraph.extend draft.types
  let graph ← match draft.query with
    | some name => .ofExcept (extended.setQueryType name)
    | none => pure extended
  .emit (.builtGraph graph.types.length)
  return graph

end SchemaDraft

/-- The type graph of a list of source texts. -/
def TypeGraph.ofTexts (texts : List String) : Logged SchemaError TypeGraph := do
  (← .ofExcept (SchemaDraft.empty.addSources 0 texts)).finish

end SdlCodegen
