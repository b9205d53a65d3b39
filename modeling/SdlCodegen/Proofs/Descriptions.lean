import SdlCodegen.Proofs.Declaration.Comments

/-!
# Descriptions do not influence the code

A graph is compared with itself without any description. Declaring the types of both takes the same
course, so both fail in the same way or both give declarations that differ in their comments only,
and the text of one is the text of the other with comment lines in between.
-/

namespace SdlCodegen

/-- The field without its description. -/
def Field.withoutDescription (field : Field) : Field :=
  { field with description := none }

/-- The value without its description. -/
def EnumValue.withoutDescription (value : EnumValue) : EnumValue :=
  { value with description := none }

/-- The body without the descriptions of its members. -/
def TypeBody.withoutDescriptions : TypeBody → TypeBody
  | object fields => object (fields.map (·.withoutDescription))
  | enum values => enum (values.map (·.withoutDescription))
  | scalar => scalar
  | bare kind => bare kind

/-- The type without its description and those of its members. -/
def NamedType.withoutDescriptions (type : NamedType) : NamedType :=
  { type with description := none, body := type.body.withoutDescriptions }

/-- The graph without any description. -/
def TypeGraph.withoutDescriptions (graph : TypeGraph) : TypeGraph :=
  { graph with types := graph.types.map (·.withoutDescriptions) }

/-- Descriptions of members are no part of what can be written. -/
theorem TypeBody.WellNamed.withoutDescriptions {body : TypeBody} (h : body.WellNamed) :
    body.withoutDescriptions.WellNamed := by
  cases body with
  | scalar => exact h
  | object fields =>
    refine ⟨?_, h.values⟩
    change ∀ field ∈ fields.map (·.withoutDescription), field.WellNamed
    rw [List.forall_mem_map]
    intro field hfield
    exact ⟨(h.fields field hfield).name, (h.fields field hfield).type⟩
  | enum values =>
    refine ⟨h.fields, ?_⟩
    change ∀ value ∈ values.map (·.withoutDescription), Sdl.isName value.name
    rw [List.forall_mem_map]
    exact h.values
  | bare kind => exact h

/-- Descriptions are no part of what can be written. -/
theorem TypeGraph.WellNamed.withoutDescriptions {graph : TypeGraph} (h : graph.WellNamed) :
    graph.withoutDescriptions.WellNamed := by
  change ∀ type ∈ graph.types.map (·.withoutDescriptions), type.WellNamed
  rw [List.forall_mem_map]
  intro type htype
  exact ⟨(h type htype).name, (h type htype).body.withoutDescriptions⟩

/-- A field is declared in the same way without its description. -/
theorem Field.declare_withoutDescription (owner : String) (field : Field) :
    field.withoutDescription.declare owner = (field.declare owner).map (·.withoutComment) := by
  cases hresolve : (field.type.mapNames Identifier.escape).resolve with
  | ok type =>
    simp [declare, withoutDescription, FieldDeclaration.withoutComment, hresolve, Except.map]
  | error shape => simp [declare, withoutDescription, hresolve, Except.map]

/-- Fields are declared in the same way without their descriptions. -/
theorem Field.mapM_declare_withoutDescription (owner : String) (fields : List Field) :
    (fields.map (·.withoutDescription)).mapM (Field.declare owner) =
      (fields.mapM (Field.declare owner)).map (List.map (·.withoutComment)) := by
  rw [← Fallible.mapM_map_eq_map, List.mapM_map]
  exact congrArg (fields.mapM ·) (funext (declare_withoutDescription owner))

/-- A stub is declared in the same way without the description of its field. -/
theorem Field.declareQuery_withoutDescription (owner : String) (field : Field) :
    field.withoutDescription.declareQuery owner =
      (field.declareQuery owner).map (·.withoutComments) := by
  unfold declareQuery
  rw [declare_withoutDescription]
  cases field.declare owner <;> rfl

namespace NamedType

/-- An object type is declared in the same way without descriptions. -/
theorem declareObject_withoutDescriptions (type : NamedType) (fields : List Field) :
    type.withoutDescriptions.declareObject (fields.map (·.withoutDescription)) =
      (type.declareObject fields).map (·.withoutComments) := by
  have hnames : (fields.map (·.withoutDescription)).map (·.name) = fields.map (·.name) := by
    simp [Field.withoutDescription]
  unfold declareObject
  change ((fields.map (·.withoutDescription)).mapM (Field.declare type.name) >>= _) =
    (fields.mapM (Field.declare type.name) >>= _).map _
  rw [Field.mapM_declare_withoutDescription]
  cases fields.mapM (Field.declare type.name) with
  | error error => rfl
  | ok declared =>
    have hidents : (declared.map (·.withoutComment)).map (·.ident) = declared.map (·.ident) := by
      simp [FieldDeclaration.withoutComment]
    change (ensureUnique (.type type.name) (((fields.map (·.withoutDescription)).map (·.name)).zip
      ((declared.map (·.withoutComment)).map (·.ident))) >>= _) =
        (ensureUnique (.type type.name) ((fields.map (·.name)).zip (declared.map (·.ident))) >>=
          _).map _
    rw [hnames, hidents]
    cases ensureUnique (.type type.name) ((fields.map (·.name)).zip (declared.map (·.ident))) <;>
      rfl

/-- An enum is declared in the same way without descriptions. -/
theorem declareEnum_withoutDescriptions (type : NamedType) (values : List EnumValue) :
    type.withoutDescriptions.declareEnum (values.map (·.withoutDescription)) =
      (type.declareEnum values).map (·.withoutComments) := by
  have hnames : (values.map (·.withoutDescription)).map (·.name) = values.map (·.name) := by
    simp [EnumValue.withoutDescription]
  have hvariants : (values.map (·.withoutDescription)).map EnumValue.declare =
      (values.map EnumValue.declare).map (·.withoutComment) := by
    simp [EnumValue.withoutDescription, EnumValue.declare, VariantDeclaration.withoutComment]
  have hidents : ((values.map EnumValue.declare).map (·.withoutComment)).map (·.ident) =
      (values.map EnumValue.declare).map (·.ident) := by
    simp [VariantDeclaration.withoutComment]
  dsimp only [declareEnum]
  rw [hvariants, hnames, hidents]
  change (ensureUnique (.type type.name) _ >>= _) = _
  cases ensureUnique (.type type.name)
    ((values.map (·.name)).zip ((values.map EnumValue.declare).map (·.ident))) <;> rfl

/-- A type is declared in the same way without descriptions. -/
theorem result_declare_withoutDescriptions (action : UnsupportedAction) (type : NamedType) :
    (type.withoutDescriptions.declare action).result =
      (type.declare action).result.map (Option.map (·.withoutComments)) := by
  have hclassified : ∀ result : Except GenerateError Declaration,
      (declare.classified type.withoutDescriptions (result.map (·.withoutComments))).result =
        (declare.classified type result).result.map (Option.map (·.withoutComments)) := by
    intro result
    cases result <;> rfl
  obtain ⟨name, description, body⟩ := type
  cases body with
  | scalar => rfl
  | object fields =>
    have hobject := declareObject_withoutDescriptions ⟨name, description, .object fields⟩ fields
    change (declare.classified _ (declareObject _ (fields.map (·.withoutDescription)))).result = _
    rw [hobject, hclassified]
    rfl
  | enum values =>
    have henum := declareEnum_withoutDescriptions ⟨name, description, .enum values⟩ values
    change (declare.classified _ (declareEnum _ (values.map (·.withoutDescription)))).result = _
    rw [henum, hclassified]
    rfl
  | bare kind => cases action <;> rfl

/-- A type is declared under the same name without descriptions. -/
theorem result_declareNamed_withoutDescriptions (action : UnsupportedAction) (type : NamedType) :
    (type.withoutDescriptions.declareNamed action).result =
      (type.declareNamed action).result.map
        (Option.map fun entry => (entry.1, entry.2.withoutComments)) := by
  unfold declareNamed
  rw [Logged.result_bind, Logged.result_bind, result_declare_withoutDescriptions]
  cases (type.declare action).result with
  | error error => rfl
  | ok declared => cases declared <;> rfl

/-- The fields of a type lose their descriptions and nothing else. -/
theorem fields_withoutDescriptions (type : NamedType) :
    type.withoutDescriptions.fields = type.fields.map (·.withoutDescription) := by
  obtain ⟨name, description, body⟩ := type
  cases body <;> rfl

end NamedType

namespace TypeGraph

/-- The types that are declared are the same without descriptions. -/
theorem declarable_withoutDescriptions (graph : TypeGraph) :
    graph.withoutDescriptions.declarable = graph.declarable.map (·.withoutDescriptions) := by
  unfold declarable withoutDescriptions
  rw [List.filter_map]
  rfl

/-- The query root is the same without descriptions. -/
theorem queryRoot?_withoutDescriptions (graph : TypeGraph) :
    graph.withoutDescriptions.queryRoot? = graph.queryRoot?.map (·.withoutDescriptions) := by
  unfold queryRoot? get? withoutDescriptions
  rw [List.find?_map]
  rfl

/-- The types of a graph are declared in the same way without descriptions. -/
theorem result_declareTypes_withoutDescriptions (graph : TypeGraph) (action : UnsupportedAction) :
    (graph.withoutDescriptions.declareTypes action).result =
      (graph.declareTypes action).result.map
        (List.map fun entry => (entry.1, entry.2.withoutComments)) := by
  have htypes : (graph.withoutDescriptions.declarable.mapM fun type : NamedType =>
      (type.declareNamed action).result) =
        (graph.declarable.mapM fun type : NamedType => (type.declareNamed action).result).map
          (List.map (Option.map fun entry => (entry.1, entry.2.withoutComments))) := by
    rw [declarable_withoutDescriptions, List.mapM_map, ← Fallible.mapM_map_eq_map]
    exact congrArg (graph.declarable.mapM ·)
      (funext (NamedType.result_declareNamed_withoutDescriptions action))
  rw [result_declareTypes, result_declareTypes, htypes]
  cases graph.declarable.mapM fun type : NamedType => (type.declareNamed action).result with
  | error error => rfl
  | ok declared =>
    change Except.ok _ = Except.ok _
    rw [List.filterMap_map, List.map_filterMap]
    rfl

/-- The stubs of a graph are declared in the same way without descriptions. -/
theorem result_declareQueries_withoutDescriptions (graph : TypeGraph) :
    graph.withoutDescriptions.declareQueries.result =
      graph.declareQueries.result.map (List.map (·.withoutComments)) := by
  unfold declareQueries
  rw [queryRoot?_withoutDescriptions]
  cases graph.queryRoot? with
  | none => rfl
  | some root =>
    change root.withoutDescriptions.fields.mapM (Field.declareQuery root.name) =
      (root.fields.mapM (Field.declareQuery root.name)).map _
    rw [NamedType.fields_withoutDescriptions, List.mapM_map, ← Fallible.mapM_map_eq_map]
    exact congrArg (root.fields.mapM ·) (funext (Field.declareQuery_withoutDescription root.name))

/-- The declarations of a graph without descriptions are its declarations without comments. -/
theorem result_declarations_withoutDescriptions (graph : TypeGraph) (action : UnsupportedAction) :
    (graph.withoutDescriptions.declarations action).result =
      (graph.declarations action).result.map (List.map (·.withoutComments)) := by
  rw [result_declarations, result_declarations, result_declareTypes_withoutDescriptions,
    result_declareQueries_withoutDescriptions]
  cases (graph.declareTypes action).result with
  | error error => rfl
  | ok declared =>
    have hnames : (declared.map fun entry => (entry.1, entry.2.withoutComments)).map
        (fun entry => (entry.1, Identifier.escape entry.1)) =
          declared.map fun entry => (entry.1, Identifier.escape entry.1) := by
      simp
    change (ensureUnique .schemaTypes
        ((declared.map fun entry => (entry.1, entry.2.withoutComments)).map
          fun entry => (entry.1, Identifier.escape entry.1)) >>= _) =
      (ensureUnique .schemaTypes
        (declared.map fun entry => (entry.1, Identifier.escape entry.1)) >>= _).map _
    rw [hnames]
    cases ensureUnique .schemaTypes (declared.map fun entry =>
      (entry.1, Identifier.escape entry.1)) with
    | error error => rfl
    | ok unique =>
      cases graph.declareQueries.result with
      | error error => rfl
      | ok queries =>
        change Except.ok _ = Except.ok _
        simp

/-- Without its comment lines the code for a graph of texts is the code for the graph without
descriptions, and where one of them fails the other fails in the same way. -/
theorem result_generate_withoutDescriptions {texts : List String} {graph : TypeGraph}
    (hgraph : (ofTexts texts).result = .ok graph) (options : GenerateOptions) :
    (graph.withoutDescriptions.generate options).result =
      (graph.generate options).result.map Layout.dropDocLines := by
  have hnamed : graph.WellNamed := wellNamed_of_ofTexts hgraph
  have hmeets := hnamed.meets_declarations options.unsupported
  rw [hnamed.withoutDescriptions.result_generate, hnamed.result_generate,
    result_declarations_withoutDescriptions]
  cases hresult : (graph.declarations options.unsupported).result with
  | error error => rfl
  | ok declarations =>
    rw [hresult] at hmeets
    exact congrArg Except.ok (dropDocLines_layoutText options.prelude hmeets).symm

/-- A description of two lines, of which one looks like a comment, leaves the code for a
scalar as it is. -/
theorem result_generate_withoutDescriptions_scalar :
    let graph : TypeGraph := ⟨[⟨"S", some "a\n/// b", .scalar⟩], none⟩
    (ofTexts ["\"a\\n/// b\" scalar S"]).result = .ok graph ∧
      (graph.generate ⟨.deny, false⟩).result = .ok "/// a\n/// /// b\npub struct S(String);\n" ∧
      (graph.withoutDescriptions.generate ⟨.deny, false⟩).result =
        (graph.generate ⟨.deny, false⟩).result.map Layout.dropDocLines := by
  intro graph
  have hgraph : (ofTexts ["\"a\\n/// b\" scalar S"]).result = .ok graph := by decide +kernel
  have htext : (graph.generate ⟨.deny, false⟩).result =
      .ok "/// a\n/// /// b\npub struct S(String);\n" := by
    decide +kernel
  exact ⟨hgraph, htext, result_generate_withoutDescriptions hgraph ⟨.deny, false⟩⟩

end TypeGraph

end SdlCodegen
