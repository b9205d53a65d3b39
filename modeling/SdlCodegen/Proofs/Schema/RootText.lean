import SdlCodegen.Generate
import SdlCodegen.Proofs.Schema.WellNamed
import SdlCodegen.Proofs.Sdl.SingleDefinition

/-!
# The query root chosen in a text

The query root may be chosen in the finished graph, or before, by one more text behind all others
that holds nothing but a schema definition. Both give the same graph, or refuse the name for the
same reason. Whatever the other texts name as the query root is passed over in either way, and their
extensions and types do not come into it: the text is last, and the query type is looked up when all
of them are merged.
-/

namespace SdlCodegen

/-- The text of a schema definition with a query root only. -/
def rootText (name : String) : String :=
  "schema \x7b query: " ++ name ++ " \x7d"

namespace Sdl

/-- The characters of a query root and the closing brace. -/
def rootChars (name : String) : List Char :=
  "query".toList ++ ':' :: ' ' :: (name.toList ++ [' ', '\x7d'])

/-- The text of a schema definition with a query root, part by part. -/
theorem toList_rootText (name : String) :
    (rootText name).toList = "schema".toList ++ ' ' :: '\x7b' :: ' ' :: rootChars name := by
  change ("schema \x7b query: " ++ name ++ " \x7d").toList = _
  rw [String.toList_append, String.toList_append, List.append_assoc]
  rfl

namespace Reader

/-- The reader of root operations takes a query root up to the closing brace. -/
theorem takes_root {name : String} (hname : isName name) :
    root.Takes (rootChars name) (.query, name) [' ', '\x7d'] := by
  have hcolon : BeginsPlain (':' :: ' ' :: (name.toList ++ [' ', '\x7d'])) :=
    beginsPlain_cons (by decide) _
  have hoperation : operation.Takes (rootChars name) .query
      (':' :: ' ' :: (name.toList ++ [' ', '\x7d'])) :=
    Takes.rule <| Takes.orElse <| (takes_word "query" _).bind Takes.pure
  apply Takes.rule
  refine hoperation.bind ?_
  refine (takes_no_blanks hcolon).bind ?_
  refine (takes_word ":" _).bind ?_
  refine (takes_blank (beginsPlain_name hname _)).bind ?_
  exact (takes_name hname (endsName_cons rfl _)).bind Takes.pure

/-- A closing brace is no root operation. -/
theorem refuses_root_brace : root.Refuses ['\x7d'] := by
  have hoperation : operation.Refuses ['\x7d'] :=
    Refuses.rule <| Refuses.orElse (Refuses.bind (refuses_word rfl)) <|
      Refuses.orElse (Refuses.bind (refuses_word rfl)) (Refuses.bind (refuses_word rfl))
  exact Refuses.rule (Refuses.bind hoperation)

/-- The reader of braced root operations takes a single query root. -/
theorem takes_roots {name : String} (hname : isName name) :
    roots.Takes ('\x7b' :: ' ' :: rootChars name) ([(.query, name)], []) [] := by
  have hopen : BeginsPlain ('\x7b' :: ' ' :: rootChars name) := beginsPlain_cons (by decide) _
  have hroot : BeginsPlain (rootChars name) := beginsPlain_cons (by decide) _
  have hclose : BeginsPlain ['\x7d'] := beginsPlain_cons (by decide) []
  have hend : TakesAll (do let value ← root; blanks; return value) ['\x7d'] [] ['\x7d'] :=
    .nil (Refuses.bind refuses_root_brace)
  have hroots : (list1 root).Takes (rootChars name) [(.query, name)] ['\x7d'] := by
    refine (takes_root hname).bind ?_
    exact (takes_blank hclose).bind (hend.many.bind Takes.pure)
  refine (takes_no_directives hopen).bind ?_
  refine (takes_no_blanks hopen).bind ?_
  refine (takes_word "\x7b" _).bind ?_
  refine (takes_blank hroot).bind ?_
  refine hroots.bind ?_
  refine (takes_no_blanks hclose).bind ?_
  exact (takes_word "\x7d" []).bind Takes.pure

/-- The reader of definitions takes the text of a schema definition with a query root. -/
theorem takes_definition_root {name : String} (hname : isName name) :
    definition.Takes (rootText name).toList ⟨.schema false [(.query, name)], []⟩ [] := by
  have hopen : BeginsPlain ('\x7b' :: ' ' :: rootChars name) := beginsPlain_cons (by decide) _
  rw [toList_rootText]
  apply Takes.rule
  apply Takes.orElse
  apply Takes.rule
  apply Takes.orElse
  refine (takes_word "schema" _).bind ?_
  refine (takes_blank hopen).bind ?_
  exact (takes_roots hname).bind Takes.pure

end Reader

/-- The text of a schema definition with a query root is a document with this definition only. -/
theorem definitionsOf_rootText {name : String} (hname : isName name) :
    definitionsOf (rootText name) = .ok [.schema false [(.query, name)]] := by
  apply definitionsOf_of_takes
  · rw [toList_rootText]
    exact beginsPlain_cons (by decide) _
  · exact Reader.takes_definition_root hname
  · rfl

end Sdl

/-- A schema definition behind others replaces the query root that they name and adds nothing
else. -/
theorem SchemaParts.ofDefinitions_concat_root (definitions : List Sdl.Definition) (name : String) :
    ofDefinitions (definitions ++ [.schema false [(.query, name)]]) =
      { ofDefinitions definitions with query := some name } := by
  have htype : Sdl.Definition.type? (.schema false [(.query, name)]) = none := rfl
  have hextension : Sdl.Definition.extension? (.schema false [(.query, name)]) = none := rfl
  have hquery : Sdl.Definition.query? (.schema false [(.query, name)]) = some name := rfl
  simp [ofDefinitions, htype, hextension, hquery]

namespace TypeGraph

/-- Choosing the query root depends on the types only. -/
theorem setQueryType_congr {graph other : TypeGraph} (h : graph.types = other.types)
    (name : String) :
    graph.setQueryType name = other.setQueryType name := by
  obtain ⟨types, chosen⟩ := graph
  cases h
  rfl

/-- Parts with another query root are put together like the parts, and then the query
root is chosen. -/
theorem assemble_query {parts : SchemaParts} {graph : TypeGraph} (h : parts.assemble = .ok graph)
    (name : String) : { parts with query := some name }.assemble = graph.setQueryType name := by
  obtain ⟨defined, hdefined, hrest⟩ := Fallible.bind_eq_ok.mp h
  obtain ⟨extended, hextended, hquery⟩ := Fallible.bind_eq_ok.mp hrest
  have htypes : extended.types = graph.types := by
    cases hnamed : parts.query with
    | none =>
      rw [hnamed] at hquery
      cases hquery
      rfl
    | some earlier =>
      rw [hnamed] at hquery
      obtain ⟨-, rfl⟩ := setQueryType_eq_ok.mp hquery
      rfl
  rw [← setQueryType_congr htypes, SchemaParts.assemble, hdefined]
  change (parts.extensions.foldlM _ defined >>= fun extended => extended.setQueryType name) = _
  rw [hextended]
  rfl

/-- A text behind others that chooses the query root is as good as choosing it in their graph. -/
theorem result_ofTexts_concat_rootText {texts : List String} {graph : TypeGraph}
    (h : (ofTexts texts).result = .ok graph) {name : String} (hname : Sdl.isName name) :
    (ofTexts (texts ++ [rootText name])).result = graph.setQueryType name := by
  obtain ⟨documents, hread⟩ := exists_documents_of_ofTexts h
  have hconcat : (texts ++ [rootText name]).mapM Sdl.definitionsOf =
      .ok (documents ++ [[.schema false [(.query, name)]]]) := by
    rw [List.mapM_append, hread, List.mapM_cons, Sdl.definitionsOf_rootText hname]
    rfl
  rw [result_ofTexts hconcat, List.flatten_append, List.flatten_singleton,
    SchemaParts.ofDefinitions_concat_root]
  exact assemble_query ((result_ofTexts hread).symm.trans h) name

/-- Behind texts that make a graph, one more text that chooses the query root gives exactly what
choosing it in the graph does: both refuse a name that is not defined, and otherwise both give the
same graph, with the types of the first one in order and the query root of that name. So the same
code is generated for both. -/
theorem rootText_eq_setQueryType {texts : List String} {graph : TypeGraph}
    (h : (ofTexts texts).result = .ok graph) {name : String} (hname : Sdl.isName name) :
    (ofTexts (texts ++ [rootText name])).result = graph.setQueryType name ∧
    (name ∉ graph.names →
      (ofTexts (texts ++ [rootText name])).result = .error (.unknownQueryType name) ∧
      graph.setQueryType name = .error (.unknownQueryType name)) ∧
    (name ∈ graph.names → ∃ made chosen, (ofTexts (texts ++ [rootText name])).result = .ok made ∧
      graph.setQueryType name = .ok chosen ∧ made.types = graph.types ∧ chosen.types = graph.types ∧
      made.queryRoot? = graph.get? name ∧ chosen.queryRoot? = graph.get? name ∧
      ∀ options, made.generate options = chosen.generate options) := by
  have hsame := result_ofTexts_concat_rootText h hname
  refine ⟨hsame, fun hnone => ?_, fun hdefined => ?_⟩
  · have hrefused := setQueryType_eq_error.mpr ⟨hnone, rfl⟩
    exact ⟨hsame.trans hrefused, hrefused⟩
  · have hchosen := setQueryType_eq_ok.mpr ⟨hdefined, rfl⟩
    exact ⟨_, _, hsame.trans hchosen, hchosen, rfl, rfl, rfl, rfl, fun _ => rfl⟩

/-- A name that begins like the word for a query root replaces the root of an earlier schema
definition, which has an extension. -/
theorem rootText_eq_setQueryType_earlier :
    let texts :=
      ["schema \x7b query: A \x7d type A \x7b a: Int \x7d extend type A \x7b b: Int \x7d",
        "type queryB \x7b c: A \x7d"]
    rootText "queryB" = "schema \x7b query: queryB \x7d" ∧
    ∃ graph made, (ofTexts texts).result = .ok graph ∧ graph.queryType = "A" ∧
      (ofTexts (texts ++ ["schema \x7b query: queryB \x7d"])).result = .ok made ∧
      graph.setQueryType "queryB" = .ok made ∧ made.types = graph.types ∧
        made.queryType = "queryB" := by
  intro texts
  have hgraph : (ofTexts texts).result = .ok ⟨[⟨"A", none,
      .object [⟨"a", none, .named "Int"⟩, ⟨"b", none, .named "Int"⟩]⟩,
      ⟨"queryB", none, .object [⟨"c", none, .named "A"⟩]⟩], some "A"⟩ := by
    decide +kernel
  have htext : rootText "queryB" = "schema \x7b query: queryB \x7d" := by decide
  have hname : Sdl.isName "queryB" := by decide
  obtain ⟨hsame, -, -⟩ := rootText_eq_setQueryType hgraph hname
  rw [htext] at hsame
  exact ⟨htext, _, _, hgraph, rfl, hsame, rfl, rfl, rfl⟩

end TypeGraph

end SdlCodegen
