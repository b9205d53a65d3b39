import SdlCodegen.Generate
import SdlCodegen.Proofs.Declaration.WellNamed

/-!
# When code is generated

A graph of schema texts has only names and types that the schema language can write, also after a
query root is chosen. Code is generated from every such graph unless the schema itself cannot be
declared: a type has a kind for which there is no declaration, or two names become one identifier.
Names that are no identifiers and types that cannot be resolved or read back do not occur,
whatever the options are.
-/

namespace SdlCodegen

/-- The text of declarations whose checks all pass. -/
def layoutText (declarations : List Declaration) (prelude : Bool) : String :=
  Layout.print ([.boxStart 0] ++ (if prelude then preludePieces else []) ++
    declarations.flatMap Declaration.layout ++ [.boxEnd])

/-- Well named declarations are printed. -/
theorem render_eq_ok {declarations : List Declaration} (prelude : Bool)
    (h : ∀ declaration ∈ declarations, declaration.WellNamed) :
    render declarations prelude = .ok (layoutText declarations prelude) := by
  have hpieces :
      declarations.mapM Declaration.pieces = .ok (declarations.map Declaration.layout) := by
    rw [Fallible.mapM_eq_ok, List.forall₂_map_right_iff]
    exact List.forall₂_same.mpr fun declaration hmem =>
      Declaration.pieces_eq_ok (h declaration hmem)
  rw [render, hpieces, layoutText, List.flatMap_def]
  rfl

namespace TypeGraph

/-- The result of generating code from a well named graph is that of declaring it, laid out. -/
theorem WellNamed.result_generate {graph : TypeGraph} (h : graph.WellNamed)
    (options : GenerateOptions) :
    (graph.generate options).result =
      (graph.declarations options.unsupported).result.map (layoutText · options.prelude) := by
  have hmeets := h.meets_declarations options.unsupported
  rw [generate, Logged.result_bind]
  cases hresult : (graph.declarations options.unsupported).result with
  | ok declarations =>
    rw [hresult] at hmeets
    exact render_eq_ok options.prelude hmeets
  | error error => rfl

end TypeGraph

end SdlCodegen
