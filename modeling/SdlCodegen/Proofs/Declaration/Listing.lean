import SdlCodegen.Proofs.Clash
import SdlCodegen.Proofs.Declaration.WellNamed
import SdlCodegen.Proofs.Resolution

/-!
# Which declarations a graph has

The declarations of a graph are known from the graph alone: one for each type in order, except the
query root and types of a kind that cannot be declared, and behind them one stub for each field of
the query root. They are given exactly if nothing stands in the way: a kind that is refused, a field
whose type does not resolve, members of one type that become one identifier, or types that do.
Nothing is required of the members of the query root except that their types resolve.

What a member or a type becomes, and which type is the query root, is written out here apart from
the functions that make the declarations.
-/

namespace SdlCodegen

/-- The identifier of a struct field or a method. -/
def Field.ident (field : Field) : String :=
  Identifier.escape (fieldName field.name)

/-- The type expression of a field, with the name in it escaped. -/
def Field.typeExpr (field : Field) : TypeExpr :=
  (field.type.mapNames Identifier.escape).expression

/-- The struct field of a field. -/
def Field.declaration (field : Field) : FieldDeclaration :=
  ⟨field.ident, field.typeExpr, field.description⟩

/-- The stub of a field of the query root. -/
def Field.stub (field : Field) : Declaration :=
  .query field.name field.ident field.typeExpr field.description

/-- The identifier of a variant. -/
def EnumValue.ident (value : EnumValue) : String :=
  Identifier.escape (variantName value.name)

/-- The variant of an enum value. -/
def EnumValue.variant (value : EnumValue) : VariantDeclaration :=
  ⟨value.ident, value.description⟩

/-- Whether types of a kind can be declared. -/
def TypeKind.isSupported : TypeKind → Bool
  | bare _ => false
  | _ => true

/-- The declaration of a type, if its kind can be declared. -/
def NamedType.declaration? (type : NamedType) : Option Declaration :=
  let name := Identifier.escape type.name
  match type.body with
  | .scalar => some (.scalar name type.description)
  | .object fields => some (.object name type.description (fields.map (·.declaration)))
  | .enum values => some (.enum name type.description (values.map (·.variant)))
  | .bare _ => none

/-- Nothing stands in the way of declaring a type. -/
structure NamedType.Declarable (action : UnsupportedAction) (type : NamedType) : Prop where
  supported : action = .deny → type.kind.isSupported
  resolvable : ∀ field ∈ type.fields, field.type.isDoubledNonNull = false
  distinctFields : (type.fields.map (·.ident)).Nodup
  distinctValues : (type.values.map (·.ident)).Nodup

namespace TypeGraph

/-- The query root: the type with its name, if there is one. -/
def root? (graph : TypeGraph) : Option NamedType :=
  graph.types.find? (·.name == graph.queryType)

/-- The types that do not have the name of the query root. -/
def typesBesideRoot (graph : TypeGraph) : List NamedType :=
  graph.types.filter (·.name != graph.queryType)

/-- The types that get a declaration. -/
def declaredTypes (graph : TypeGraph) : List NamedType :=
  graph.typesBesideRoot.filter (·.kind.isSupported)

/-- The fields of the query root, none if there is no query root. -/
def queryFields (graph : TypeGraph) : List Field :=
  graph.root?.toList.flatMap (·.fields)

/-- The declarations of a graph if nothing stands in the way. -/
def listing (graph : TypeGraph) : List Declaration :=
  graph.typesBesideRoot.filterMap (·.declaration?) ++ graph.queryFields.map (·.stub)

/-- Nothing stands in the way of declaring a graph. -/
structure Declarable (action : UnsupportedAction) (graph : TypeGraph) : Prop where
  types : ∀ type ∈ graph.typesBesideRoot, type.Declarable action
  resolvable : ∀ field ∈ graph.queryFields, field.type.isDoubledNonNull = false
  distinctTypes : (graph.declaredTypes.map (Identifier.escape ·.name)).Nodup

/-- The fields of the query root, if there is one, are those that get stubs. -/
theorem mem_queryFields {graph : TypeGraph} {field : Field} :
    field ∈ graph.queryFields ↔ ∃ root, graph.root? = some root ∧ field ∈ root.fields := by
  simp [queryFields]

end TypeGraph

/-- A field is declared exactly if its type resolves. -/
theorem Field.declare_eq_ok {owner : String} {field : Field} {declared : FieldDeclaration} :
    field.declare owner = .ok declared ↔
      field.type.isDoubledNonNull = false ∧ declared = field.declaration := by
  rw [declare, TypeRef.resolve_eq, TypeRef.isDoubledNonNull_mapNames]
  cases field.type.isDoubledNonNull with
  | true => simp
  | false => simp [declaration, ident, typeExpr, eq_comm]

/-- A stub is declared exactly if the type of its field resolves. -/
theorem Field.declareQuery_eq_ok {owner : String} {field : Field} {stub : Declaration} :
    field.declareQuery owner = .ok stub ↔
      field.type.isDoubledNonNull = false ∧ stub = field.stub := by
  rw [declareQuery, Fallible.bind_eq_ok]
  simp only [declare_eq_ok, and_assoc, exists_and_left, ↓existsAndEq, true_and, Fallible.pure_eq_ok,
    declaration, Field.stub]

/-- A value is declared as its variant. -/
theorem EnumValue.declare_eq (value : EnumValue) : value.declare = value.variant := rfl

namespace NamedType

/-- An object type is declared exactly if the types of its fields resolve and their
identifiers differ. -/
theorem declareObject_eq_ok {type : NamedType} {fields : List Field} {declared : Declaration} :
    type.declareObject fields = .ok declared ↔
      (∀ field ∈ fields, field.type.isDoubledNonNull = false) ∧ (fields.map (·.ident)).Nodup ∧
        declared = .object (Identifier.escape type.name) type.description
          (fields.map (·.declaration)) := by
  have hidents : (fields.map (·.declaration)).map (·.ident) = fields.map (·.ident) := by
    simp [Field.declaration]
  rw [declareObject, Fallible.bind_eq_ok]
  simp only [Fallible.mapM_eq_ok_map fun _ _ => Field.declare_eq_ok, Fallible.check_bind_eq_ok,
    Fallible.pure_eq_ok, and_assoc, exists_and_left, ↓existsAndEq, true_and]
  rw [ensureUnique_zip_eq_ok (by simp), hidents]

/-- An enum is declared exactly if the identifiers of its values differ. -/
theorem declareEnum_eq_ok {type : NamedType} {values : List EnumValue} {declared : Declaration} :
    type.declareEnum values = .ok declared ↔
      (values.map (·.ident)).Nodup ∧
        declared = .enum (Identifier.escape type.name) type.description
          (values.map (·.variant)) := by
  have hvariants : values.map (·.declare) = values.map (·.variant) :=
    List.map_congr_left fun value _ => value.declare_eq
  have hidents : (values.map (·.variant)).map (·.ident) = values.map (·.ident) := by
    simp [EnumValue.variant]
  dsimp only [declareEnum]
  rw [hvariants]
  rw [Fallible.check_bind_eq_ok, Fallible.pure_eq_ok, ensureUnique_zip_eq_ok (by simp), hidents]

/-- A type is classified in a log only. -/
theorem result_classified (type : NamedType) (result : Except GenerateError Declaration) :
    (declare.classified type result).result = result.map some := by
  cases result <;> rfl

/-- A type that is classified has the declaration that was made for it. -/
theorem result_classified_eq_ok {type : NamedType} {result : Except GenerateError Declaration}
    {entry : Option Declaration} :
    (declare.classified type result).result = .ok entry ↔
      ∃ declared, result = .ok declared ∧ entry = some declared := by
  rw [result_classified, Fallible.map_eq_ok]
  simp only [eq_comm]

/-- Only types of kinds that cannot be declared are left out. -/
theorem isSome_declaration? (type : NamedType) :
    type.declaration?.isSome = type.kind.isSupported := by
  obtain ⟨name, description, body⟩ := type
  cases body <;> rfl

/-- A type is declared or left out exactly if nothing stands in the way. -/
theorem result_declare_eq_ok {action : UnsupportedAction} {type : NamedType}
    {entry : Option Declaration} :
    (type.declare action).result = .ok entry ↔
      type.Declarable action ∧ entry = type.declaration? := by
  obtain ⟨name, description, body⟩ := type
  cases body with
  | scalar =>
    have hdeclarable : Declarable action ⟨name, description, .scalar⟩ :=
      ⟨fun _ => rfl, by simp [fields, TypeBody.fields], .nil, .nil⟩
    rw [and_iff_right hdeclarable, declare, result_classified_eq_ok]
    simp [declaration?]
  | object fields =>
    have hdeclarable : Declarable action ⟨name, description, .object fields⟩ ↔
        (∀ field ∈ fields, field.type.isDoubledNonNull = false) ∧ (fields.map (·.ident)).Nodup :=
      ⟨fun h => ⟨h.resolvable, h.distinctFields⟩, fun h => ⟨fun _ => rfl, h.1, h.2, .nil⟩⟩
    rw [hdeclarable, declare, result_classified_eq_ok]
    simp only [declareObject_eq_ok, and_assoc, exists_and_left, ↓existsAndEq, true_and,
      declaration?]
  | enum values =>
    have hdeclarable : Declarable action ⟨name, description, .enum values⟩ ↔
        (values.map (·.ident)).Nodup :=
      ⟨fun h => h.distinctValues,
        fun h => ⟨fun _ => rfl, by simp [fields, TypeBody.fields], .nil, h⟩⟩
    rw [hdeclarable, declare, result_classified_eq_ok]
    simp only [declareEnum_eq_ok, and_assoc, exists_and_left, ↓existsAndEq, true_and, declaration?]
  | bare kind =>
    have hdeclarable : Declarable action ⟨name, description, .bare kind⟩ ↔ action ≠ .deny :=
      ⟨fun h hdeny => Bool.false_ne_true (h.supported hdeny),
        fun h => ⟨fun hdeny => absurd hdeny h, by simp [fields, TypeBody.fields], .nil, .nil⟩⟩
    rw [hdeclarable]
    cases action with
    | deny => simp [declare]
    | warn =>
      change Except.ok none = Except.ok entry ↔ _
      simp [declaration?, eq_comm]

/-- A type goes with its name, declared or left out. -/
theorem result_declareNamed_eq_ok {action : UnsupportedAction} {type : NamedType}
    {entry : Option (String × Declaration)} :
    (type.declareNamed action).result = .ok entry ↔
      type.Declarable action ∧ entry = type.declaration?.map (type.name, ·) := by
  rw [declareNamed, Logged.result_bind, Fallible.bind_eq_ok]
  simp only [result_declare_eq_ok, and_assoc, exists_and_left, ↓existsAndEq, true_and]
  rw [Logged.result_pure, Except.ok.injEq, eq_comm]

end NamedType

namespace TypeGraph

/-- The types that are to be declared are those beside the query root. -/
theorem declarable_eq (graph : TypeGraph) : graph.declarable = graph.typesBesideRoot := rfl

/-- The query root is looked up by its name. -/
theorem queryRoot?_eq (graph : TypeGraph) : graph.queryRoot? = graph.root? := rfl

/-- The names that go with the declarations are those of the declared types. -/
theorem map_fst_declarations (graph : TypeGraph) :
    (graph.typesBesideRoot.filterMap fun type => type.declaration?.map (type.name, ·)).map (·.1) =
      graph.declaredTypes.map (·.name) := by
  unfold declaredTypes
  induction graph.typesBesideRoot with
  | nil => rfl
  | cons type types ih =>
    have hsupported := type.isSome_declaration?
    cases hdeclaration : type.declaration? with
    | none =>
      rw [hdeclaration] at hsupported
      simpa [hdeclaration, ← hsupported] using ih
    | some declaration =>
      rw [hdeclaration] at hsupported
      simpa [hdeclaration, ← hsupported] using ih

/-- The types of a graph are declared exactly if nothing stands in the way of any. -/
theorem result_declareTypes_eq_ok {graph : TypeGraph} {action : UnsupportedAction}
    {declared : List (String × Declaration)} :
    (graph.declareTypes action).result = .ok declared ↔
      (∀ type ∈ graph.typesBesideRoot, type.Declarable action) ∧
        declared = graph.typesBesideRoot.filterMap fun type =>
          type.declaration?.map (type.name, ·) := by
  rw [result_declareTypes, declarable_eq, Fallible.map_eq_ok]
  simp only [Fallible.mapM_eq_ok_map fun _ _ => NamedType.result_declareNamed_eq_ok, and_assoc,
    exists_and_left, ↓existsAndEq, true_and]
  rw [List.filterMap_map, eq_comm]
  rfl

/-- The stubs of a graph are declared exactly if the types of all fields of the query root
resolve. -/
theorem result_declareQueries_eq_ok {graph : TypeGraph} {stubs : List Declaration} :
    graph.declareQueries.result = .ok stubs ↔
      (∀ field ∈ graph.queryFields, field.type.isDoubledNonNull = false) ∧
        stubs = graph.queryFields.map (·.stub) := by
  unfold declareQueries queryFields
  rw [queryRoot?_eq]
  cases graph.root? with
  | none =>
    change Except.ok [] = Except.ok stubs ↔ _
    rw [Except.ok.injEq, eq_comm]
    simp
  | some root =>
    rw [Option.toList_some, List.flatMap_singleton]
    exact Fallible.mapM_eq_ok_map fun _ _ => Field.declareQuery_eq_ok

/-- A graph has declarations exactly if nothing stands in the way, and then its listing. -/
theorem result_declarations_eq_ok {graph : TypeGraph} {action : UnsupportedAction}
    {declared : List Declaration} :
    (graph.declarations action).result = .ok declared ↔
      graph.Declarable action ∧ declared = graph.listing := by
  have hunique : ∀ {entries : List (String × Declaration)},
      ensureUnique .schemaTypes (entries.map fun entry => (entry.1, Identifier.escape entry.1)) =
        .ok () ↔ ((entries.map (·.1)).map Identifier.escape).Nodup := by
    intro entries
    rw [ensureUnique_eq_ok, List.map_map, List.map_map]
    rfl
  have htypes :
      (graph.typesBesideRoot.filterMap fun type => type.declaration?.map (type.name, ·)).map
      (·.2) = graph.typesBesideRoot.filterMap (·.declaration?) := by
    simp [List.map_filterMap, Function.comp_def]
  rw [result_declarations, Fallible.bind_eq_ok]
  simp only [result_declareTypes_eq_ok, Fallible.check_bind_eq_ok, Fallible.map_eq_ok, hunique,
    result_declareQueries_eq_ok]
  constructor
  · intro hparts
    obtain ⟨entries, ⟨hdeclarable, rfl⟩, hdistinct, stubs, ⟨hresolvable, rfl⟩, rfl⟩ := hparts
    rw [map_fst_declarations, List.map_map] at hdistinct
    rw [htypes]
    exact ⟨⟨hdeclarable, hresolvable, hdistinct⟩, rfl⟩
  · intro hparts
    obtain ⟨⟨hdeclarable, hresolvable, hdistinct⟩, rfl⟩ := hparts
    refine ⟨_, ⟨hdeclarable, rfl⟩, ?_, _, ⟨hresolvable, rfl⟩, ?_⟩
    · rw [map_fst_declarations, List.map_map]
      exact hdistinct
    · rw [htypes, listing]

end TypeGraph

end SdlCodegen
