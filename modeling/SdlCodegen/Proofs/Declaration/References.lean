import SdlCodegen.Proofs.Declaration.Listing

/-!
# Where references lead

A field of the generated code refers to a type by an identifier. The name that the field refers to
and the name of the type are escaped apart from each other, and escaping is not injective: `Self`
and `Self_` both become `Self_`. The check that declared types have different identifiers is what
keeps references apart: a reference to a declared type has the identifier of that type, and no other
type is declared under it.

Stubs declare no type of the schema, so they are left out of account.
-/

namespace SdlCodegen

/-- The name under all wrappers is that in the type expression. -/
@[simp] theorem TypeRef.leaf_expression (type : TypeRef) : type.expression.leaf = type.leaf := by
  have helement : type.element.leaf = type.leaf := TypeExpr.leaf_wrap _ _
  unfold expression
  split
  · exact helement
  · exact helement

/-- A field refers to a type by the escaped name of the type. -/
theorem Field.leaf_typeExpr (field : Field) :
    field.typeExpr.leaf = Identifier.escape field.type.leaf := by
  rw [typeExpr, TypeRef.leaf_expression, TypeRef.leaf_mapNames]

/-- The identifier of the type that a declaration declares. A stub declares none. -/
def Declaration.typeIdent? : Declaration → Option String
  | scalar name _ | object name _ _ | enum name _ _ => some name
  | query .. => none

/-- A type is declared under its escaped name. -/
theorem NamedType.typeIdent?_of_declaration? {type : NamedType} {declaration : Declaration}
    (h : type.declaration? = some declaration) :
    declaration.typeIdent? = some (Identifier.escape type.name) := by
  obtain ⟨name, description, body⟩ := type
  cases body <;> cases h <;> rfl

/-- A type that has a field is an object type, and declared as a struct of its fields. -/
theorem NamedType.declaration?_of_mem_fields {type : NamedType} {field : Field}
    (h : field ∈ type.fields) :
    type.declaration? = some (.object (Identifier.escape type.name) type.description
      (type.fields.map (·.declaration))) := by
  obtain ⟨name, description, body⟩ := type
  cases body with
  | object fields => rfl
  | scalar => cases h
  | enum values => cases h
  | bare kind => cases h

/-- Among elements with different keys only one has the key of a given element. -/
theorem filter_key_eq_singleton {α β : Type} [DecidableEq β] {key : α → β} {items : List α}
    (hdistinct : (items.map key).Nodup) {item : α} (hitem : item ∈ items) :
    items.filter (key · = key item) = [item] := by
  induction items with
  | nil => cases hitem
  | cons first rest ih =>
    rw [List.map_cons, List.nodup_cons] at hdistinct
    obtain ⟨hfirst, hrest⟩ := hdistinct
    rcases List.mem_cons.mp hitem with rfl | hmem
    · have hnone : rest.filter (key · = key item) = [] := by
        refine List.filter_eq_nil_iff.mpr fun other hother heq => hfirst ?_
        rw [← of_decide_eq_true heq]
        exact List.mem_map_of_mem hother
      rw [List.filter_cons_of_pos (by simp), hnone]
    · have hne : key first ≠ key item := fun heq => hfirst (heq ▸ List.mem_map_of_mem hmem)
      rw [List.filter_cons_of_neg (by simpa using hne), ih hrest hmem]

namespace TypeGraph

/-- The declarations of types have the identifiers of the declared types, in order. -/
theorem map_typeIdent? (graph : TypeGraph) :
    (graph.typesBesideRoot.filterMap (·.declaration?)).map (·.typeIdent?) =
      (graph.declaredTypes.map (Identifier.escape ·.name)).map some := by
  have hident : ∀ type : NamedType, type.declaration?.map (·.typeIdent?) =
      if type.kind.isSupported then some (some (Identifier.escape type.name)) else none := by
    intro type
    obtain ⟨name, description, body⟩ := type
    cases body <;> rfl
  rw [List.map_filterMap, declaredTypes, List.map_map, ← List.filterMap_eq_map,
    List.filterMap_filter]
  exact congrArg (graph.typesBesideRoot.filterMap ·) (funext hident)

/-- A declared type is the only one that is declared under its identifier. -/
theorem filter_typeIdent?_listing {graph : TypeGraph}
    (hdistinct : (graph.declaredTypes.map (Identifier.escape ·.name)).Nodup) {type : NamedType}
    (htype : type ∈ graph.declaredTypes) :
    ∃ declaration, type.declaration? = some declaration ∧
      graph.listing.filter (·.typeIdent? = some (Identifier.escape type.name)) = [declaration] := by
  obtain ⟨hdeclarable, hsupported⟩ := List.mem_filter.mp htype
  obtain ⟨declaration, hdeclaration⟩ :=
    Option.isSome_iff_exists.mp (type.isSome_declaration?.trans hsupported)
  have hmem : declaration ∈ graph.typesBesideRoot.filterMap (·.declaration?) :=
    List.mem_filterMap.mpr ⟨type, hdeclarable, hdeclaration⟩
  have hidents : ((graph.typesBesideRoot.filterMap (·.declaration?)).map (·.typeIdent?)).Nodup := by
    rw [map_typeIdent?]
    exact hdistinct.map (Option.some_injective _)
  have hstubs : (graph.queryFields.map (·.stub)).filter
      (·.typeIdent? = some (Identifier.escape type.name)) = [] := by
    simp [Field.stub, Declaration.typeIdent?]
  refine ⟨declaration, hdeclaration, ?_⟩
  rw [listing, List.filter_append, hstubs, List.append_nil,
    ← NamedType.typeIdent?_of_declaration? hdeclaration]
  exact filter_key_eq_singleton hidents hmem

/-- A place in a graph where a type is referred to: a field of a type other than the query root, or
of the query root. -/
structure Reference (graph : TypeGraph) where
  owner : NamedType
  field : Field
  isOwner : owner ∈ graph.typesBesideRoot ∨ graph.root? = some owner
  isField : field ∈ owner.fields

namespace Reference

variable {graph : TypeGraph}

/-- The name of the type that is referred to. -/
def target (reference : graph.Reference) : String :=
  reference.field.type.leaf

/-- What the field becomes, with its type resolved. -/
def declare (reference : graph.Reference) : Except GenerateError FieldDeclaration :=
  reference.field.declare reference.owner.name

/-- The resolved field stands in declarations where the reference stands in the graph: in the struct
of a type that is declared, or in a stub of its own. -/
structure IsResolvedIn (reference : graph.Reference) (resolved : FieldDeclaration)
    (declared : List Declaration) : Prop where
  inStruct : reference.owner ∈ graph.typesBesideRoot → ∃ fields, resolved ∈ fields ∧
    .object (Identifier.escape reference.owner.name) reference.owner.description fields ∈ declared
  inStub : graph.root? = some reference.owner →
    .query reference.field.name resolved.ident resolved.type resolved.comment ∈ declared

/-- In a graph that can be declared every reference resolves. -/
theorem declare_eq_ok {action : UnsupportedAction} (h : graph.Declarable action)
    {reference : graph.Reference} {resolved : FieldDeclaration} :
    reference.declare = .ok resolved ↔ resolved = reference.field.declaration := by
  have hsingle : reference.field.type.isDoubledNonNull = false := by
    rcases reference.isOwner with howner | hroot
    · exact (h.types _ howner).resolvable _ reference.isField
    · exact h.resolvable _ (mem_queryFields.mpr ⟨_, hroot, reference.isField⟩)
  exact Field.declare_eq_ok.trans (and_iff_right hsingle)

/-- The listing has every reference resolved in its place. -/
theorem isResolvedIn_listing (reference : graph.Reference) :
    reference.IsResolvedIn reference.field.declaration graph.listing := by
  constructor
  · intro howner
    have hdeclaration := NamedType.declaration?_of_mem_fields reference.isField
    exact ⟨_, List.mem_map_of_mem reference.isField,
      List.mem_append_left _ (List.mem_filterMap.mpr ⟨_, howner, hdeclaration⟩)⟩
  · intro hroot
    have hfield : reference.field ∈ graph.queryFields :=
      mem_queryFields.mpr ⟨_, hroot, reference.isField⟩
    have hstub : reference.field.stub ∈ graph.listing :=
      List.mem_append_right _ (List.mem_map_of_mem hfield)
    dsimp only [Field.declaration]
    exact hstub

end Reference

/-- If a graph has declarations, every reference in it resolves and stands in them. One to a
declared type has the identifier under which that type is declared, and no other type is
declared under it. So two references to declared types have one identifier exactly if they
refer to one type. -/
theorem references_keep_types {graph : TypeGraph} {action : UnsupportedAction}
    {declared : List Declaration} (h : (graph.declarations action).result = .ok declared) :
    (∀ reference : graph.Reference, ∃ resolved, reference.declare = .ok resolved ∧
      reference.IsResolvedIn resolved declared ∧
      ∀ type ∈ graph.declaredTypes, type.name = reference.target →
        ∃ declaration, (type.declare action).result = .ok (some declaration) ∧
          declared.filter (·.typeIdent? = some resolved.type.leaf) = [declaration]) ∧
    ∀ (first second : graph.Reference) (resolved other : FieldDeclaration),
      first.declare = .ok resolved → second.declare = .ok other →
      first.target ∈ graph.declaredTypes.map (·.name) →
      second.target ∈ graph.declaredTypes.map (·.name) →
        (resolved.type.leaf = other.type.leaf ↔ first.target = second.target) := by
  obtain ⟨hdeclarable, rfl⟩ := result_declarations_eq_ok.mp h
  constructor
  · intro reference
    refine ⟨_, (Reference.declare_eq_ok hdeclarable).mpr rfl, reference.isResolvedIn_listing, ?_⟩
    intro type htype hname
    obtain ⟨declaration, hdeclaration, honly⟩ :=
      filter_typeIdent?_listing hdeclarable.distinctTypes htype
    have hleaf : reference.field.declaration.type.leaf = Identifier.escape type.name :=
      reference.field.leaf_typeExpr.trans (congrArg Identifier.escape hname.symm)
    refine ⟨declaration, ?_, ?_⟩
    · rw [← hdeclaration, NamedType.result_declare_eq_ok]
      exact ⟨hdeclarable.types type (List.mem_of_mem_filter htype), rfl⟩
    · rwa [hleaf]
  · intro first second resolved other hfirst hsecond hfirstTarget hsecondTarget
    rw [Reference.declare_eq_ok hdeclarable] at hfirst hsecond
    have hleaf : resolved.type.leaf = Identifier.escape first.target :=
      hfirst ▸ first.field.leaf_typeExpr
    have hotherLeaf : other.type.leaf = Identifier.escape second.target :=
      hsecond ▸ second.field.leaf_typeExpr
    -- escaping is injective on the names of declared types, though not in general
    obtain ⟨type, htype, hname⟩ := List.mem_map.mp hfirstTarget
    obtain ⟨otherType, hotherType, hotherName⟩ := List.mem_map.mp hsecondTarget
    rw [hleaf, hotherLeaf, ← hname, ← hotherName]
    constructor
    · intro hsame
      rw [List.inj_on_of_nodup_map hdeclarable.distinctTypes htype hotherType hsame]
    · exact congrArg Identifier.escape

/-- The name of a type that is a reserved word keeps its references, inside a list and outside. -/
theorem references_keep_types_reserved :
    let owner : NamedType := ⟨"T", none, .object [⟨"a", none, .list (.nonNull (.named "Self"))⟩]⟩
    let target : NamedType := ⟨"Self", none, .object [⟨"b", none, .named "T"⟩]⟩
    let graph : TypeGraph := ⟨[owner, target], none⟩
    let declaration : Declaration :=
      .object "Self_" none [⟨"b", .generic "Option" (.name "T"), none⟩]
    ∃ declared, (graph.declarations .deny).result = .ok declared ∧
      (Field.declare "T" ⟨"a", none, .list (.nonNull (.named "Self"))⟩) =
        .ok ⟨"a", .generic "Option" (.generic "Vec" (.name "Self_")), none⟩ ∧
      (target.declare .deny).result = .ok (some declaration) ∧
      declared.filter (·.typeIdent? = some "Self_") = [declaration] := by
  intro owner target graph declaration
  have h : (graph.declarations .deny).result =
      .ok [.object "T" none [⟨"a", .generic "Option" (.generic "Vec" (.name "Self_")), none⟩],
        declaration] := by
    decide +kernel
  have hresolved : (Field.declare "T" ⟨"a", none, .list (.nonNull (.named "Self"))⟩) =
      .ok ⟨"a", .generic "Option" (.generic "Vec" (.name "Self_")), none⟩ := by
    decide +kernel
  have hdeclaration : (target.declare .deny).result = .ok (some declaration) := by decide +kernel
  obtain ⟨resolved, hreference, -, htypes⟩ :=
    (references_keep_types h).1 ⟨owner, _, .inl List.mem_cons_self, List.mem_cons_self⟩
  cases hreference.symm.trans hresolved
  obtain ⟨found, hfound, honly⟩ := htypes target (by decide) rfl
  cases hfound.symm.trans hdeclaration
  exact ⟨_, h, hresolved, hdeclaration, honly⟩

end TypeGraph

end SdlCodegen
