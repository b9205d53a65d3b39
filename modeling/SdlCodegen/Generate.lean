import SdlCodegen.Declaration.OfGraph
import SdlCodegen.Declaration.Pieces

/-!
# Generating code

The whole way from a type graph to the text of the generated module. The imports that the code needs
are written in front on request. All declarations are made before the first one is printed.
-/

namespace SdlCodegen

/-- How code is generated. -/
structure GenerateOptions where
  unsupported : UnsupportedAction
  prelude : Bool
  deriving DecidableEq, Repr

/-- The imports of the generated code. -/
def preludePieces : List Layout.Piece :=
  [.word "use async_graphql::\x7bContext, Object, Result, SimpleObject\x7d;", .line 0]

/-- The text of a list of declarations. -/
def render (declarations : List Declaration) (prelude : Bool) : Except GenerateError String := do
  let pieces ← declarations.mapM Declaration.pieces
  let start := if prelude then preludePieces else []
  return Layout.print ([.boxStart 0] ++ start ++ pieces.flatten ++ [.boxEnd])

/-- The text of the module for a type graph. -/
def TypeGraph.generate (graph : TypeGraph) (options : GenerateOptions) :
    Logged GenerateError String := do
  let declarations ← graph.declarations options.unsupported
  .ofExcept (render declarations options.prelude)

end SdlCodegen
