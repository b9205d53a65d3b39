import SdlCodegen.Proofs.Schema.Operations
import SdlCodegen.Schema.Merge

/-!
# One graph from several sources

The graph of source texts depends on three things only: the types that are defined, the extensions,
and the query type that the last schema definition with a query names, each taken in the order of
the texts. How definitions are spread over the texts and how the three kinds are mixed does not
matter, not even for the error of texts that make no graph. The graph has the defined types in their
order, each with the members of all its extensions behind its own.

Texts that are no schema documents are left out of account: the statements assume that each text can
be read by itself.
-/

namespace SdlCodegen

/-- The type that a definition defines. -/
def Sdl.Definition.type? : Definition → Option NamedType
  | .type named => some named
  | _ => none

/-- The extension that a definition makes. -/
def Sdl.Definition.extension? : Definition → Option NamedType
  | .extension named => some named
  | _ => none

/-- What definitions contribute to a type graph: the types and the extensions in order, and the
query type that is named last. -/
structure SchemaParts where
  types : List NamedType
  extensions : List NamedType
  query : Option String

namespace SchemaParts

/-- The contributions of definitions. -/
def ofDefinitions (definitions : List Sdl.Definition) : SchemaParts where
  types := definitions.filterMap (·.type?)
  extensions := definitions.filterMap (·.extension?)
  query := (definitions.filterMap (·.query?)).getLast?

/-- The types of definitions come in order. -/
theorem types_cons (definition : Sdl.Definition) (definitions : List Sdl.Definition) :
    (ofDefinitions (definition :: definitions)).types =
      definition.type?.toList ++ (ofDefinitions definitions).types := by
  cases h : definition.type? <;> simp [ofDefinitions, h]

/-- The extensions of definitions come in order. -/
theorem extensions_cons (definition : Sdl.Definition) (definitions : List Sdl.Definition) :
    (ofDefinitions (definition :: definitions)).extensions =
      definition.extension?.toList ++ (ofDefinitions definitions).extensions := by
  cases h : definition.extension? <;> simp [ofDefinitions, h]

/-- A later query replaces an earlier one. -/
theorem query_cons (definition : Sdl.Definition) (definitions : List Sdl.Definition) :
    (ofDefinitions (definition :: definitions)).query =
      ((ofDefinitions definitions).query <|> definition.query?) := by
  dsimp only [ofDefinitions]
  cases h : definition.query? with
  | none =>
    rw [List.filterMap_cons_none h, Option.orElse_eq_orElse, Option.orElse_eq_or, Option.or_none]
  | some name =>
    rw [List.filterMap_cons_some h, List.getLast?_cons]
    cases (definitions.filterMap (·.query?)).getLast? <;> rfl

/-- The parts fit together: names are distinct, every extension has a type of its name and kind, and
the query type is defined. -/
structure Consistent (parts : SchemaParts) : Prop where
  distinct : (parts.types.map (·.name)).Nodup
  extended : ∀ extension ∈ parts.extensions,
    ∃ type ∈ parts.types, type.name = extension.name ∧ type.kind = extension.kind
  rooted : ∀ name ∈ parts.query, ∃ type ∈ parts.types, type.name = name

/-- Put the parts together, all types first and the query type last. -/
def assemble (parts : SchemaParts) : Except SchemaError TypeGraph := do
  let defined ← parts.types.foldlM TypeGraph.insert .empty
  let extended ←
    parts.extensions.foldlM (fun graph extension => (graph.extend extension).result) defined
  match parts.query with
  | some name => extended.setQueryType name
  | none => return extended

end SchemaParts

namespace SchemaDraft

/-- Taking in definitions adds their types, queues their extensions and replaces the query. -/
theorem foldlM_add (draft : SchemaDraft) (definitions : List Sdl.Definition) :
    let parts := SchemaParts.ofDefinitions definitions
    definitions.foldlM add draft =
      (parts.types.foldlM TypeGraph.insert draft.types).map fun types =>
        ⟨types, draft.extensions ++ parts.extensions, parts.query <|> draft.query⟩ := by
  intro parts
  induction definitions generalizing draft with
  | nil => simp [parts, SchemaParts.ofDefinitions, pure, Except.pure, Except.map]
  | cons definition definitions ih =>
    dsimp only [parts]
    rw [List.foldlM_cons, SchemaParts.types_cons, SchemaParts.extensions_cons,
      SchemaParts.query_cons]
    cases definition with
    | schema isExtension roots =>
      change definitions.foldlM add _ = _
      rw [ih]
      simp [Sdl.Definition.type?, Sdl.Definition.extension?, Option.or_assoc]
    | type named =>
      cases hinsert : draft.types.insert named with
      | error error => simp [add, hinsert, Sdl.Definition.type?, bind, Except.bind, Except.map]
      | ok types =>
        simp only [add, hinsert, bind, Except.bind, pure, Except.pure, ih]
        simp [Sdl.Definition.type?, Sdl.Definition.extension?, Sdl.Definition.query?, hinsert, bind,
          Except.bind]
    | extension named =>
      change definitions.foldlM add _ = _
      rw [ih]
      simp [Sdl.Definition.type?, Sdl.Definition.extension?, Sdl.Definition.query?]
    | directive =>
      change definitions.foldlM add _ = _
      rw [ih]
      simp [Sdl.Definition.type?, Sdl.Definition.extension?, Sdl.Definition.query?]

/-- Readable texts are taken in as one document. -/
theorem addSources_eq_foldlM {texts : List String} {documents : List (List Sdl.Definition)}
    (hread : texts.mapM Sdl.definitionsOf = .ok documents) (draft : SchemaDraft) (index : Nat) :
    draft.addSources index texts = documents.flatten.foldlM add draft := by
  induction texts generalizing draft index documents with
  | nil =>
    cases hread
    rfl
  | cons text texts ih =>
    rw [List.mapM_cons, Fallible.bind_eq_ok] at hread
    obtain ⟨definitions, hdefinitions, hrest⟩ := hread
    obtain ⟨others, hothers, heq⟩ := Fallible.bind_eq_ok.mp hrest
    cases heq
    have hsource : draft.addSource index text = definitions.foldlM add draft := by
      simp [addSource, hdefinitions, Except.mapError, bind, Except.bind]
    rw [addSources, hsource, List.flatten_cons, List.foldlM_append]
    exact bind_congr fun next => ih hothers next (index + 1)

/-- Finishing a draft applies its extensions and then chooses its query type. -/
theorem result_finish (draft : SchemaDraft) :
    draft.finish.result = do
      let extended ←
        draft.extensions.foldlM (fun graph extension => (graph.extend extension).result) draft.types
      match draft.query with
      | some name => extended.setQueryType name
      | none => return extended := by
  obtain ⟨types, extensions, query⟩ := draft
  simp only [finish, Logged.result_bind, Logged.result_foldlM]
  refine bind_congr fun extended => ?_
  cases query with
  | none => rfl
  | some name =>
    rw [Logged.result_bind]
    exact bind_pure (extended.setQueryType name)

end SchemaDraft

namespace TypeGraph

/-- Adding types succeeds exactly if all names stay distinct. -/
theorem foldlM_insert_eq_ok {graph next : TypeGraph} {types : List NamedType}
    (hdistinct : graph.names.Nodup) :
    types.foldlM insert graph = .ok next ↔
      (graph.names ++ types.map (·.name)).Nodup ∧
        next = { graph with types := graph.types ++ types } := by
  induction types generalizing graph with
  | nil => simp [hdistinct, pure, Except.pure, eq_comm]
  | cons type types ih =>
    have hnames : ({ graph with types := graph.types ++ [type] } : TypeGraph).names =
        graph.names ++ [type.name] := by simp [names]
    rw [List.foldlM_cons, Fallible.bind_eq_ok]
    constructor
    · intro hparts
      obtain ⟨middle, hmiddle, hnext⟩ := hparts
      obtain ⟨hnew, rfl⟩ := insert_eq_ok.mp hmiddle
      have hnodup : (graph.names ++ [type.name]).Nodup :=
        List.nodup_append_comm.mp (List.nodup_cons.mpr ⟨hnew, hdistinct⟩)
      obtain ⟨hall, rfl⟩ := (ih (hnames ▸ hnodup)).mp hnext
      rw [hnames] at hall
      exact ⟨by simpa using hall, by simp⟩
    · intro hparts
      obtain ⟨hall, rfl⟩ := hparts
      have hsplit : ((graph.names ++ [type.name]) ++ types.map (·.name)).Nodup := by
        simpa using hall
      have hnodup := (List.nodup_append.mp hsplit).1
      have hnew : type.name ∉ graph.names :=
        (List.nodup_cons.mp (List.nodup_append_comm.mp hnodup)).1
      refine ⟨_, insert_eq_ok.mpr ⟨hnew, rfl⟩, (ih (hnames ▸ hnodup)).mpr ⟨?_, by simp⟩⟩
      rwa [hnames]

/-- Applying extensions succeeds exactly if each has a type of its name and kind. -/
theorem foldlM_extend_eq_ok {graph next : TypeGraph} {extensions : List NamedType}
    (hdistinct : graph.names.Nodup) :
    extensions.foldlM (fun graph extension => (graph.extend extension).result) graph = .ok next ↔
      (∀ extension ∈ extensions,
        ∃ type ∈ graph.types, type.name = extension.name ∧ type.kind = extension.kind) ∧
        next = graph.mergedWith extensions := by
  induction extensions generalizing graph with
  | nil => simp [mergedWith, pure, Except.pure, eq_comm]
  | cons extension extensions ih =>
    -- an extension changes no name and no kind, so the condition on the others stays as it is
    have hkept : ∀ other : NamedType,
        (∃ type ∈ (graph.mergedWith [extension]).types,
          type.name = other.name ∧ type.kind = other.kind) ↔
        ∃ type ∈ graph.types, type.name = other.name ∧ type.kind = other.kind := by
      simp [mergedWith]
    have hnames : (graph.mergedWith [extension]).names.Nodup := by
      rwa [names_mergedWith]
    rw [List.foldlM_cons, Fallible.bind_eq_ok, List.forall_mem_cons]
    constructor
    · intro hparts
      obtain ⟨middle, hmiddle, hnext⟩ := hparts
      obtain ⟨hbase, rfl⟩ := (result_extend_eq_ok hdistinct).mp hmiddle
      obtain ⟨hothers, rfl⟩ := (ih hnames).mp hnext
      exact ⟨⟨hbase, fun other hother => (hkept other).mp (hothers other hother)⟩,
        (mergedWith_append graph [extension] extensions).symm⟩
    · intro hparts
      obtain ⟨⟨hbase, hothers⟩, rfl⟩ := hparts
      refine ⟨_, (result_extend_eq_ok hdistinct).mpr ⟨hbase, rfl⟩, (ih hnames).mpr ⟨?_, ?_⟩⟩
      · exact fun other hother => (hkept other).mpr (hothers other hother)
      · exact mergedWith_append graph [extension] extensions

/-- Parts can be put together exactly if they fit, and then every type has its extensions. -/
theorem assemble_eq_ok {parts : SchemaParts} {graph : TypeGraph} :
    parts.assemble = .ok graph ↔
      parts.Consistent ∧
        graph = ⟨parts.types.map (·.mergedWith parts.extensions), parts.query⟩ := by
  obtain ⟨types, extensions, query⟩ := parts
  have hempty : empty.names.Nodup := List.nodup_nil
  unfold SchemaParts.assemble
  simp only [Fallible.bind_eq_ok, foldlM_insert_eq_ok hempty]
  constructor
  · intro hparts
    obtain ⟨defined, ⟨hdistinct, rfl⟩, extended, hextended, hquery⟩ := hparts
    have hnames : ({ empty with types := empty.types ++ types } : TypeGraph).names.Nodup :=
      hdistinct
    obtain ⟨hbases, rfl⟩ := (foldlM_extend_eq_ok hnames).mp hextended
    cases query with
    | none =>
      cases hquery
      exact ⟨⟨hdistinct, hbases, by simp⟩, rfl⟩
    | some name =>
      obtain ⟨hname, rfl⟩ := setQueryType_eq_ok.mp hquery
      exact ⟨⟨hdistinct, hbases, by simpa [names, empty, mergedWith] using hname⟩, rfl⟩
  · intro hparts
    obtain ⟨⟨hdistinct, hbases, hquery⟩, rfl⟩ := hparts
    have hnames : ({ empty with types := empty.types ++ types } : TypeGraph).names.Nodup :=
      hdistinct
    refine ⟨_, ⟨hdistinct, rfl⟩, _, (foldlM_extend_eq_ok hnames).mpr ⟨hbases, rfl⟩, ?_⟩
    cases query with
    | none => rfl
    | some name =>
      refine setQueryType_eq_ok.mpr ⟨?_, rfl⟩
      simpa [names, empty, mergedWith] using hquery name rfl

/-- The graph of readable texts is put together from the parts in all of them. -/
theorem result_ofTexts {texts : List String} {documents : List (List Sdl.Definition)}
    (hread : texts.mapM Sdl.definitionsOf = .ok documents) :
    (ofTexts texts).result = (SchemaParts.ofDefinitions documents.flatten).assemble := by
  have hdraft := SchemaDraft.addSources_eq_foldlM hread .empty 0
  rw [SchemaDraft.foldlM_add] at hdraft
  rw [ofTexts, Logged.result_bind, Logged.result_ofExcept, hdraft, SchemaParts.assemble]
  change _ = (List.foldlM insert SchemaDraft.empty.types _).bind _
  cases List.foldlM insert SchemaDraft.empty.types _ with
  | error error => rfl
  | ok defined =>
    change (SchemaDraft.finish _).result = _
    rw [SchemaDraft.result_finish]
    simp [SchemaDraft.empty, Except.bind]

/-- Readable texts make a graph exactly if their parts fit together. The graph has the defined types
in order, each with its extensions merged in and otherwise as it was defined, and the query type
that is named last, or else the default one. Nothing but the parts decides the result: neither how
they are spread over texts nor how the kinds of definition are mixed. -/
theorem ofTexts_merges {texts : List String} {documents : List (List Sdl.Definition)}
    (hread : texts.mapM Sdl.definitionsOf = .ok documents) :
    let parts := SchemaParts.ofDefinitions documents.flatten
    ((∃ graph, (ofTexts texts).result = .ok graph) ↔ parts.Consistent) ∧
    (∀ graph, (ofTexts texts).result = .ok graph →
      graph.types = parts.types.map (·.mergedWith parts.extensions) ∧
      graph.types.map (fun type => (type.name, type.kind, type.description)) =
        parts.types.map (fun type => (type.name, type.kind, type.description)) ∧
      (∀ type ∈ parts.types, (∀ extension ∈ parts.extensions, extension.name ≠ type.name) →
        type ∈ graph.types) ∧
      graph.queryType = parts.query.getD defaultQueryType) ∧
    ∀ (otherTexts : List String) (otherDocuments : List (List Sdl.Definition)),
      otherTexts.mapM Sdl.definitionsOf = .ok otherDocuments →
      SchemaParts.ofDefinitions otherDocuments.flatten = parts →
      (ofTexts otherTexts).result = (ofTexts texts).result := by
  intro parts
  have hresult : (ofTexts texts).result = parts.assemble := result_ofTexts hread
  refine ⟨?_, ?_, ?_⟩
  · rw [hresult]
    constructor
    · intro hparts
      obtain ⟨graph, hgraph⟩ := hparts
      exact (assemble_eq_ok.mp hgraph).1
    · intro hconsistent
      exact ⟨_, assemble_eq_ok.mpr ⟨hconsistent, rfl⟩⟩
  · intro graph hgraph
    obtain ⟨-, rfl⟩ := assemble_eq_ok.mp (hresult ▸ hgraph)
    refine ⟨rfl, by simp, ?_, rfl⟩
    intro type htype hother
    rw [← type.mergedWith_of_forall_ne parts.extensions hother]
    exact List.mem_map_of_mem htype
  · intro otherTexts otherDocuments hother hsame
    rw [result_ofTexts hother, hresult, hsame]

/-- An extension in an earlier text than its enum adds its values after those of the enum. -/
theorem ofTexts_merges_extension_first :
    ["extend enum E \x7b B \x7d", "enum E \x7b A \x7d schema \x7b query: E \x7d"].mapM
        Sdl.definitionsOf =
      .ok [[.extension ⟨"E", none, .enum [⟨"B", none⟩]⟩],
        [.type ⟨"E", none, .enum [⟨"A", none⟩]⟩, .schema false [(.query, "E")]]] ∧
    ∃ graph,
      (ofTexts ["extend enum E \x7b B \x7d",
        "enum E \x7b A \x7d schema \x7b query: E \x7d"]).result = .ok graph ∧
      graph.types = [⟨"E", none, .enum [⟨"A", none⟩, ⟨"B", none⟩]⟩] ∧ graph.queryType = "E" := by
  have hread : ["extend enum E \x7b B \x7d", "enum E \x7b A \x7d schema \x7b query: E \x7d"].mapM
      Sdl.definitionsOf =
        .ok [[.extension ⟨"E", none, .enum [⟨"B", none⟩]⟩],
          [.type ⟨"E", none, .enum [⟨"A", none⟩]⟩, .schema false [(.query, "E")]]] := by
    decide +kernel
  obtain ⟨hiff, hgraph, -⟩ := ofTexts_merges hread
  obtain ⟨graph, hresult⟩ := hiff.mpr ⟨by decide, by decide, by decide⟩
  obtain ⟨htypes, -, -, hquery⟩ := hgraph graph hresult
  exact ⟨hread, graph, hresult, htypes, hquery⟩

end TypeGraph

end SdlCodegen
