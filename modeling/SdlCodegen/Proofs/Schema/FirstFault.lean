import SdlCodegen.Proofs.Schema.WellNamed
import SdlCodegen.Source

/-!
# The fault that is reported

Texts that make no graph may have many faults, and one of them is reported. The texts come first, in
their order: one that is no schema document, or one that defines a name which is already defined. A
text is read as a whole before its names are looked at, so names that it repeats do not count if it
cannot be read. Only when all texts are taken in do the extensions matter, in their order, and
behind them the query type.

A text that cannot be read is told by its origin. Every other fault may involve several texts, so it
is told with the origins of all.
-/

namespace SdlCodegen

namespace SchemaParts

/-- The names of the types, in order. -/
def typeNames (parts : SchemaParts) : List String :=
  parts.types.map (·.name)

/-- An extension has a base of its kind. -/
def Fits (parts : SchemaParts) (extension : NamedType) : Prop :=
  ∃ type ∈ parts.types, type.name = extension.name ∧ type.kind = extension.kind

end SchemaParts

/-- Every text can be read, together they have the given parts, and no name is defined twice in
them. -/
def TakenIn (texts : List String) (parts : SchemaParts) : Prop :=
  ∃ documents, texts.mapM Sdl.definitionsOf = .ok documents ∧
    parts = .ofDefinitions documents.flatten ∧ parts.typeNames.Nodup

/-- Texts that are taken in define distinct names. -/
theorem TakenIn.distinct {texts : List String} {parts : SchemaParts} (h : TakenIn texts parts) :
    parts.typeNames.Nodup := by
  obtain ⟨documents, -, -, hdistinct⟩ := h
  exact hdistinct

/-- The first fault of texts, in the order in which faults are looked for. -/
inductive FirstFault (texts : List String) : SchemaError → Prop where
  /-- The texts before this one are taken in, and this one cannot be read. -/
  | document {before after : List String} {text : String} {parts : SchemaParts}
      {cause : Sdl.DocumentError} (htexts : texts = before ++ text :: after)
      (hbefore : TakenIn before parts) (hread : Sdl.definitionsOf text = .error cause) :
      FirstFault texts (.document before.length cause)
  /-- The texts before this one are taken in, this one can be read, and so far as `front` goes all
  names in it are new, but the next one is not. -/
  | duplicateType {before after : List String} {text : String} {parts : SchemaParts}
      {definitions : List Sdl.Definition} {front back : List String} {name : String}
      (htexts : texts = before ++ text :: after) (hbefore : TakenIn before parts)
      (hread : Sdl.definitionsOf text = .ok definitions)
      (hnames : (SchemaParts.ofDefinitions definitions).typeNames = front ++ name :: back)
      (hnew : (parts.typeNames ++ front).Nodup) (htaken : name ∈ parts.typeNames ++ front) :
      FirstFault texts (.duplicateType name)
  /-- All texts are taken in, and the first extension without a base of its kind has no base at
  all. -/
  | unknownExtensionTarget {parts : SchemaParts} {front back : List NamedType}
      {extension : NamedType} (htexts : TakenIn texts parts)
      (hextensions : parts.extensions = front ++ extension :: back)
      (hfront : ∀ earlier ∈ front, parts.Fits earlier) (hnone : extension.name ∉ parts.typeNames) :
      FirstFault texts (.unknownExtensionTarget extension.name)
  /-- All texts are taken in, and the first extension without a base of its kind has
  one of another. -/
  | extensionKindMismatch {parts : SchemaParts} {front back : List NamedType}
      {base extension : NamedType} (htexts : TakenIn texts parts)
      (hextensions : parts.extensions = front ++ extension :: back)
      (hfront : ∀ earlier ∈ front, parts.Fits earlier) (hbase : base ∈ parts.types)
      (hname : base.name = extension.name) (hkind : base.kind ≠ extension.kind) :
      FirstFault texts (.extensionKindMismatch extension.name base.kind extension.kind)
  /-- All texts are taken in, every extension has its base, and the query type that is named last
  is not defined. -/
  | unknownQueryType {parts : SchemaParts} {name : String} (htexts : TakenIn texts parts)
      (hextensions : ∀ extension ∈ parts.extensions, parts.Fits extension)
      (hquery : parts.query = some name) (hnone : name ∉ parts.typeNames) :
      FirstFault texts (.unknownQueryType name)

namespace TypeGraph

/-- Adding types fails at the first name that is taken, by the graph or by an earlier one of
them. -/
theorem foldlM_insert_eq_error {graph : TypeGraph} (hdistinct : graph.names.Nodup)
    {types : List NamedType} {error : SchemaError} :
    types.foldlM insert graph = .error error ↔
      ∃ front name back, types.map (·.name) = front ++ name :: back ∧ (graph.names ++ front).Nodup ∧
        name ∈ graph.names ++ front ∧ error = .duplicateType name := by
  rw [Fallible.foldlM_eq_error]
  simp only [foldlM_insert_eq_ok hdistinct, insert_eq_error]
  constructor
  · intro hparts
    obtain ⟨front, type, back, middle, rfl, ⟨hnew, rfl⟩, htaken, rfl⟩ := hparts
    exact ⟨front.map (·.name), type.name, back.map (·.name), by simp, hnew,
      by simpa [names] using htaken, rfl⟩
  · intro hparts
    obtain ⟨front, name, back, hnames, hnew, htaken, rfl⟩ := hparts
    obtain ⟨first, rest, rfl, rfl, hrest⟩ := List.map_eq_append_iff.mp hnames
    obtain ⟨type, last, rfl, rfl, rfl⟩ := List.map_eq_cons_iff.mp hrest
    exact ⟨first, type, last, _, rfl, ⟨hnew, rfl⟩, by simpa [names] using htaken, rfl⟩

/-- Applying extensions fails at the first one without a base of its kind. -/
theorem foldlM_extend_eq_error {graph : TypeGraph} (hdistinct : graph.names.Nodup)
    {extensions : List NamedType} {error : SchemaError} :
    extensions.foldlM (fun graph extension => (graph.extend extension).result) graph =
      .error error ↔
      ∃ front extension back, extensions = front ++ extension :: back ∧
        (∀ earlier ∈ front,
          ∃ type ∈ graph.types, type.name = earlier.name ∧ type.kind = earlier.kind) ∧
        ((extension.name ∉ graph.names ∧ error = .unknownExtensionTarget extension.name) ∨
          ∃ base ∈ graph.types, base.name = extension.name ∧ base.kind ≠ extension.kind ∧
            error = .extensionKindMismatch extension.name base.kind extension.kind) := by
  -- merging the extensions in front keeps all names and kinds
  have hfault : ∀ (front : List NamedType) (extension : NamedType),
      ((graph.mergedWith front).extend extension).result = .error error ↔
        (extension.name ∉ graph.names ∧ error = .unknownExtensionTarget extension.name) ∨
          ∃ base ∈ graph.types, base.name = extension.name ∧ base.kind ≠ extension.kind ∧
            error = .extensionKindMismatch extension.name base.kind extension.kind := by
    intro front extension
    rw [result_extend_eq_error (by simpa using hdistinct)]
    simp [mergedWith, names]
  rw [Fallible.foldlM_eq_error]
  simp only [foldlM_extend_eq_ok hdistinct]
  constructor
  · intro hparts
    obtain ⟨front, extension, back, middle, rfl, ⟨hfront, rfl⟩, hextension⟩ := hparts
    exact ⟨front, extension, back, rfl, hfront, (hfault front extension).mp hextension⟩
  · intro hparts
    obtain ⟨front, extension, back, rfl, hfront, hextension⟩ := hparts
    exact ⟨front, extension, back, _, rfl, ⟨hfront, rfl⟩, (hfault front extension).mpr hextension⟩

end TypeGraph

namespace SchemaDraft

/-- Taking in texts fails exactly if it gets through some texts and fails on the next one. -/
theorem addSources_eq_error {draft : SchemaDraft} {index : Nat} {texts : List String}
    {error : SchemaError} :
    draft.addSources index texts = .error error ↔
      ∃ before text after middle, texts = before ++ text :: after ∧
        draft.addSources index before = .ok middle ∧
          middle.addSource (index + before.length) text = .error error := by
  induction texts generalizing draft index with
  | nil => simp [addSources]
  | cons text texts ih =>
    rw [addSources, Fallible.bind_eq_error]
    constructor
    · intro hparts
      rcases hparts with htext | ⟨next, hnext, hrest⟩
      · exact ⟨[], text, texts, draft, rfl, rfl, htext⟩
      · obtain ⟨before, later, after, middle, rfl, hbefore, hlater⟩ := ih.mp hrest
        refine ⟨text :: before, later, after, middle, rfl, ?_, ?_⟩
        · rw [addSources, Fallible.bind_eq_ok]
          exact ⟨next, hnext, hbefore⟩
        · rwa [List.length_cons, Nat.add_comm before.length, ← Nat.add_assoc]
    · intro hparts
      obtain ⟨before, later, after, middle, heq, hbefore, hlater⟩ := hparts
      cases before with
      | nil =>
        cases heq
        cases hbefore
        exact .inl hlater
      | cons first before =>
        cases heq
        rw [addSources, Fallible.bind_eq_ok] at hbefore
        obtain ⟨next, hnext, hbefore⟩ := hbefore
        rw [List.length_cons, Nat.add_comm before.length, ← Nat.add_assoc] at hlater
        exact .inr ⟨next, hnext, ih.mpr ⟨before, later, after, middle, rfl, hbefore, hlater⟩⟩

/-- The draft with given parts. -/
def ofParts (parts : SchemaParts) : SchemaDraft :=
  ⟨⟨parts.types, none⟩, parts.extensions, parts.query⟩

/-- The draft of texts that are taken in has their parts. -/
theorem addSources_empty_eq_ok {texts : List String} {draft : SchemaDraft} :
    empty.addSources 0 texts = .ok draft ↔
      ∃ parts, TakenIn texts parts ∧ draft = ofParts parts := by
  have hempty : TypeGraph.empty.names.Nodup := List.nodup_nil
  have hdraft : ∀ {documents}, texts.mapM Sdl.definitionsOf = .ok documents →
      (empty.addSources 0 texts = .ok draft ↔
        (SchemaParts.ofDefinitions documents.flatten).typeNames.Nodup ∧
          draft = ofParts (.ofDefinitions documents.flatten)) := by
    intro documents hread
    rw [addSources_eq_foldlM hread, foldlM_add, Fallible.map_eq_ok]
    simp only [empty, TypeGraph.foldlM_insert_eq_ok hempty, and_assoc, exists_and_left,
      ↓existsAndEq, true_and]
    rw [eq_comm (b := draft)]
    simp [ofParts, SchemaParts.typeNames, TypeGraph.names, TypeGraph.empty]
  constructor
  · intro h
    obtain ⟨documents, hread⟩ := exists_documents h
    obtain ⟨hdistinct, rfl⟩ := (hdraft hread).mp h
    exact ⟨_, ⟨documents, hread, rfl, hdistinct⟩, rfl⟩
  · intro hparts
    obtain ⟨_, ⟨documents, hread, rfl, hdistinct⟩, rfl⟩ := hparts
    exact (hdraft hread).mpr ⟨hdistinct, rfl⟩

/-- Taking in one more text fails if it cannot be read, or else at the first name in it that is
taken. -/
theorem addSource_ofParts_eq_error {parts : SchemaParts} (hdistinct : parts.typeNames.Nodup)
    {index : Nat} {text : String} {error : SchemaError} :
    (ofParts parts).addSource index text = .error error ↔
      (∃ cause, Sdl.definitionsOf text = .error cause ∧ error = .document index cause) ∨
        ∃ definitions, Sdl.definitionsOf text = .ok definitions ∧
          ∃ front name back,
            (SchemaParts.ofDefinitions definitions).typeNames = front ++ name :: back ∧
            (parts.typeNames ++ front).Nodup ∧ name ∈ parts.typeNames ++ front ∧
              error = .duplicateType name := by
  have hnames : (ofParts parts).types.names.Nodup := hdistinct
  rw [addSource, Fallible.bind_eq_error, Fallible.mapError_eq_error]
  simp only [Fallible.mapError_eq_ok, foldlM_add, Fallible.map_eq_error,
    TypeGraph.foldlM_insert_eq_error hnames, eq_comm (b := error)]
  rfl

/-- Finishing a draft fails at the first extension without a base of its kind, or else because its
query type is not defined. -/
theorem result_finish_ofParts_eq_error {parts : SchemaParts} (hdistinct : parts.typeNames.Nodup)
    {error : SchemaError} :
    (ofParts parts).finish.result = .error error ↔
      (∃ front extension back, parts.extensions = front ++ extension :: back ∧
        (∀ earlier ∈ front, parts.Fits earlier) ∧
        ((extension.name ∉ parts.typeNames ∧ error = .unknownExtensionTarget extension.name) ∨
          ∃ base ∈ parts.types, base.name = extension.name ∧ base.kind ≠ extension.kind ∧
            error = .extensionKindMismatch extension.name base.kind extension.kind)) ∨
        (∀ extension ∈ parts.extensions, parts.Fits extension) ∧
          ∃ name, parts.query = some name ∧ name ∉ parts.typeNames ∧
            error = .unknownQueryType name := by
  have hnames : (ofParts parts).types.names.Nodup := hdistinct
  rw [result_finish, Fallible.bind_eq_error]
  refine or_congr (TypeGraph.foldlM_extend_eq_error hnames) ?_
  simp only [TypeGraph.foldlM_extend_eq_ok hnames, and_assoc, exists_and_left, ↓existsAndEq,
    true_and]
  refine and_congr_right fun _ => ?_
  cases hquery : parts.query with
  | none => simp [ofParts, hquery, pure, Except.pure]
  | some name =>
    simp only [ofParts, hquery, TypeGraph.setQueryType_eq_error, TypeGraph.names_mergedWith,
      Option.some.injEq, exists_eq_left']
    rfl

end SchemaDraft

namespace TypeGraph

/-- Texts make no graph exactly because of their first fault. -/
theorem result_ofTexts_eq_error {texts : List String} {error : SchemaError} :
    (ofTexts texts).result = .error error ↔ FirstFault texts error := by
  rw [ofTexts, Logged.result_bind, Logged.result_ofExcept, Fallible.bind_eq_error,
    SchemaDraft.addSources_eq_error]
  simp only [SchemaDraft.addSources_empty_eq_ok, Nat.zero_add]
  constructor
  · intro hparts
    rcases hparts with ⟨before, text, after, draft, htexts, ⟨parts, hbefore, rfl⟩, htext⟩ |
      ⟨draft, ⟨parts, htexts, rfl⟩, hfinish⟩
    · rcases (SchemaDraft.addSource_ofParts_eq_error hbefore.distinct).mp htext with
        ⟨cause, hread, rfl⟩ | ⟨definitions, hread, front, name, back, hnames, hnew, htaken, rfl⟩
      · exact .document htexts hbefore hread
      · exact .duplicateType htexts hbefore hread hnames hnew htaken
    · rcases (SchemaDraft.result_finish_ofParts_eq_error htexts.distinct).mp hfinish with
        ⟨front, extension, back, hextensions, hfront,
          ⟨hnone, rfl⟩ | ⟨base, hbase, hname, hkind, rfl⟩⟩ |
        ⟨hextensions, name, hquery, hnone, rfl⟩
      · exact .unknownExtensionTarget htexts hextensions hfront hnone
      · exact .extensionKindMismatch htexts hextensions hfront hbase hname hkind
      · exact .unknownQueryType htexts hextensions hquery hnone
  · intro hfault
    cases hfault with
    | document htexts hbefore hread =>
      exact .inl ⟨_, _, _, _, htexts, ⟨_, hbefore, rfl⟩,
        (SchemaDraft.addSource_ofParts_eq_error hbefore.distinct).mpr (.inl ⟨_, hread, rfl⟩)⟩
    | duplicateType htexts hbefore hread hnames hnew htaken =>
      exact .inl ⟨_, _, _, _, htexts, ⟨_, hbefore, rfl⟩,
        (SchemaDraft.addSource_ofParts_eq_error hbefore.distinct).mpr
          (.inr ⟨_, hread, _, _, _, hnames, hnew, htaken, rfl⟩)⟩
    | unknownExtensionTarget htexts hextensions hfront hnone =>
      exact .inr ⟨_, ⟨_, htexts, rfl⟩,
        (SchemaDraft.result_finish_ofParts_eq_error htexts.distinct).mpr
          (.inl ⟨_, _, _, hextensions, hfront, .inl ⟨hnone, rfl⟩⟩)⟩
    | extensionKindMismatch htexts hextensions hfront hbase hname hkind =>
      exact .inr ⟨_, ⟨_, htexts, rfl⟩,
        (SchemaDraft.result_finish_ofParts_eq_error htexts.distinct).mpr
          (.inl ⟨_, _, _, hextensions, hfront, .inr ⟨_, hbase, hname, hkind, rfl⟩⟩)⟩
    | unknownQueryType htexts hextensions hquery hnone =>
      exact .inr ⟨_, ⟨_, htexts, rfl⟩,
        (SchemaDraft.result_finish_ofParts_eq_error htexts.distinct).mpr
          (.inr ⟨hextensions, _, hquery, hnone, rfl⟩)⟩

/-- Sources make no graph exactly because of the first fault of their texts. The report names the
origin of the text that cannot be read, which is one of the sources, or else the origins of all
of them in order. -/
theorem ofSources_reports_firstFault (sources : List Source) (error : SchemaError) :
    ((ofTexts (sources.map (·.text))).result = .error error ↔
      FirstFault (sources.map (·.text)) error) ∧
    (FirstFault (sources.map (·.text)) error →
      ∃ failure, (ofSources sources).result = .error failure ∧ failure.cause = error ∧
        match error with
        | .document index _ =>
          ∃ source, sources[index]? = some source ∧
            failure.message = "failed to parse " ++ source.origin
        | _ =>
          failure.message = "failed to read schema from " ++
            String.intercalate ", " (sources.map (·.origin))) := by
  refine ⟨result_ofTexts_eq_error, fun hfault => ?_⟩
  refine ⟨⟨sources.map (·.origin), error⟩, ?_, rfl, ?_⟩
  · rw [ofSources, Logged.result_mapError, result_ofTexts_eq_error.mpr hfault]
    rfl
  · cases hfault with
    | document htexts hbefore hread =>
      obtain ⟨before, rest, rfl, rfl, hrest⟩ := List.map_eq_append_iff.mp htexts
      obtain ⟨source, after, rfl, rfl, rfl⟩ := List.map_eq_cons_iff.mp hrest
      exact ⟨source, by simp, by simp [ReadFailure.message]⟩
    | duplicateType => rfl
    | unknownExtensionTarget => rfl
    | extensionKindMismatch => rfl
    | unknownQueryType => rfl

/-- A name that is defined again in the second of three sources comes before a name that is repeated
behind it, an extension of nothing in the first source and a third source that cannot be read. -/
theorem ofSources_reports_firstFault_duplicate :
    let sources : List Source :=
      [⟨"a", "extend type Z \x7b y: Int \x7d scalar A"⟩, ⟨"b", "scalar C scalar A scalar C"⟩,
        ⟨"c", "type \x7b"⟩]
    FirstFault (sources.map (·.text)) (.duplicateType "A") ∧
      ∃ failure, (ofSources sources).result = .error failure ∧ failure.cause = .duplicateType "A" ∧
        failure.message = "failed to read schema from a, b, c" := by
  intro sources
  obtain ⟨hiff, hreport⟩ := ofSources_reports_firstFault sources (.duplicateType "A")
  have hfault := hiff.mp (by decide +kernel)
  exact ⟨hfault, hreport hfault⟩

end TypeGraph

end SdlCodegen
