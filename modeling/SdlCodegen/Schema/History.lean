import SdlCodegen.Schema.Merge

/-!
# Histories of a type graph

A graph changes in steps: it is replaced by that of source texts, a type is added, or the query root
is chosen. A step that is refused leaves the graph as it was.
-/

namespace SdlCodegen

/-- A change of a type graph. -/
inductive Step where
  | parse (texts : List String)
  | insert (type : NamedType)
  | setQueryType (name : String)
  deriving DecidableEq, Repr

namespace Step

/-- The graph after a step, or why the step is refused. -/
def apply (graph : TypeGraph) : Step → Except SchemaError TypeGraph
  | parse texts => (TypeGraph.ofTexts texts).result
  | insert type => graph.insert type
  | setQueryType name => graph.setQueryType name

/-- The graph after a step that may be refused. -/
def perform (graph : TypeGraph) (step : Step) : TypeGraph :=
  match step.apply graph with
  | .ok changed => changed
  | .error _ => graph

/-- A step as a change in place, check by check and write by write. What is written before
a refusal stays. -/
def edit : Step → EStateM SchemaError TypeGraph Unit
  | parse texts =>
    match (TypeGraph.ofTexts texts).result with
    | .ok graph => set graph
    | .error error => throw error
  | insert type => do
    if (← get).defines type.name then
      throw (.duplicateType type.name)
    modify fun graph => { graph with types := graph.types ++ [type] }
  | setQueryType name => do
    if !(← get).defines name then
      throw (.unknownQueryType name)
    modify fun graph => { graph with chosenQueryType := some name }

end Step

/-- The graph after a history. -/
def TypeGraph.after (graph : TypeGraph) (steps : List Step) : TypeGraph :=
  steps.foldl Step.perform graph

end SdlCodegen
