import SdlCodegen.Proofs.Declaration.Listing

/-!
# The field that is refused for its type

Fields are looked at type by type in the order of the graph, without the query root, and the fields
of the query root come last. A graph that is refused for the type of a field is refused for the
first field in this order whose type has two non-null wrappers outermost, and the refusal names this
field and its owner.

The type is shown with its name escaped. So it is shown as the schema has it exactly if its name is
no reserved word of the generated language.
-/

namespace SdlCodegen

/-- Escaping leaves a name as it is exactly if it is no reserved word. -/
theorem Identifier.escape_eq_self_iff {name : String} :
    escape name = name ↔ name ∉ pathWords ∧ name ∉ keywords := by
  have hlonger : ∀ {first second : String}, first.length ≠ second.length → first ≠ second :=
    fun hlength heq => hlength (heq ▸ rfl)
  unfold escape
  split
  · next hpath =>
    have hne : name ++ "_" ≠ name := hlonger (by simp)
    simp [hne, hpath]
  · next hpath =>
    split
    · next hkeyword =>
      have hne : "r#" ++ name ≠ name := hlonger (by simp)
      simp [hne, hkeyword]
    · next hkeyword => simp [hpath, hkeyword]

/-- The notation of a type tells its name, so it stays the same exactly if the name does. -/
theorem TypeRef.text_mapNames_eq_iff (f : String → String) (type : TypeRef) :
    (type.mapNames f).text = type.text ↔ f type.leaf = type.leaf := by
  induction type with
  | named name => rfl
  | list element ih =>
    rw [mapNames, text, text, String.append_left_inj, String.append_right_inj]
    exact ih
  | nonNull inner ih =>
    rw [mapNames, text, text, String.append_left_inj]
    exact ih

/-- A field is refused exactly if its type does not resolve. -/
theorem Field.declare_eq_error {owner : String} {field : Field} {error : GenerateError} :
    field.declare owner = .error error ↔ field.type.isDoubledNonNull ∧
      error = .unsupportedShape owner field.name ⟨field.type.mapNames Identifier.escape⟩ := by
  rw [declare, TypeRef.resolve_eq, TypeRef.isDoubledNonNull_mapNames]
  cases field.type.isDoubledNonNull <;> simp [eq_comm]

/-- A stub is refused exactly if the type of its field does not resolve. -/
theorem Field.declareQuery_eq_error {owner : String} {field : Field} {error : GenerateError} :
    field.declareQuery owner = .error error ↔ field.type.isDoubledNonNull ∧
      error = .unsupportedShape owner field.name ⟨field.type.mapNames Identifier.escape⟩ := by
  rw [declareQuery, Fallible.bind_pure_eq_error, declare_eq_error]

/-- The fields of a type, each with the name of the type. -/
def NamedType.ownedFields (type : NamedType) : List (String × Field) :=
  type.fields.map (type.name, ·)

/-- The fields that are looked at, in order, each with the name of its type. -/
def TypeGraph.visitedFields (graph : TypeGraph) : List (String × Field) :=
  (graph.typesBesideRoot ++ graph.root?.toList).flatMap (·.ownedFields)

/-- Every field that is looked at is one of the graph. -/
theorem TypeGraph.exists_of_mem_visitedFields {graph : TypeGraph} {owner : String} {field : Field}
    (h : (owner, field) ∈ graph.visitedFields) :
    ∃ type ∈ graph.types, type.name = owner ∧ field ∈ type.fields := by
  obtain ⟨type, htype, hfield⟩ := List.mem_flatMap.mp h
  obtain ⟨_, hmem, heq⟩ := List.mem_map.mp hfield
  cases heq
  refine ⟨type, ?_, rfl, hmem⟩
  rcases List.mem_append.mp htype with hdeclarable | hroot
  · exact List.mem_of_mem_filter hdeclarable
  · exact (mem_of_get?_eq_some (Option.mem_toList.mp hroot)).1

/-- A refusal for the type of a field is about the first of some fields whose type has two non-null
wrappers outermost. -/
def IsFirstDoubled (visited : List (String × Field)) (owner name : String)
    (shape : UnsupportedShape) : Prop :=
  ∃ front field back, visited = front ++ (owner, field) :: back ∧
    (∀ earlier ∈ front, earlier.2.type.isDoubledNonNull = false) ∧ field.type.isDoubledNonNull ∧
      name = field.name ∧ shape = ⟨field.type.mapNames Identifier.escape⟩

namespace IsFirstDoubled

variable {visited more : List (String × Field)} {owner name : String} {shape : UnsupportedShape}

/-- The first of some fields is the first of more fields. -/
theorem append (h : IsFirstDoubled visited owner name shape) (more : List (String × Field)) :
    IsFirstDoubled (visited ++ more) owner name shape := by
  obtain ⟨front, field, back, rfl, hfield⟩ := h
  exact ⟨front, field, back ++ more, by simp, hfield⟩

/-- Fields in front whose types resolve do not count. -/
theorem append_left (h : IsFirstDoubled visited owner name shape)
    (hmore : ∀ earlier ∈ more, earlier.2.type.isDoubledNonNull = false) :
    IsFirstDoubled (more ++ visited) owner name shape := by
  obtain ⟨front, field, back, rfl, hfront, hfield⟩ := h
  exact ⟨more ++ front, field, back, by simp, List.forall_mem_append.mpr ⟨hmore, hfront⟩, hfield⟩

/-- A computation on fields that fails only at types that do not resolve fails at the first of
them. -/
theorem of_mapM {α : Type} {typeName : String} {f : Field → Except GenerateError α}
    (hf : ∀ field error, f field = .error error ↔ field.type.isDoubledNonNull ∧
      error = .unsupportedShape typeName field.name ⟨field.type.mapNames Identifier.escape⟩)
    {fields : List Field} (h : fields.mapM f = .error (.unsupportedShape owner name shape)) :
    IsFirstDoubled (fields.map (typeName, ·)) owner name shape := by
  obtain ⟨front, field, back, rfl, hfront, hfield⟩ := Fallible.mapM_eq_error.mp h
  obtain ⟨hdoubled, heq⟩ := (hf field _).mp hfield
  cases heq
  refine ⟨front.map (owner, ·), field, back.map (owner, ·), by simp, ?_, hdoubled, rfl, rfl⟩
  rw [List.forall_mem_map]
  intro earlier hearlier
  obtain ⟨value, hvalue⟩ := hfront earlier hearlier
  rw [← Bool.not_eq_true]
  intro hdoubled
  rw [(hf earlier _).mpr ⟨hdoubled, rfl⟩] at hvalue
  cases hvalue

end IsFirstDoubled

/-- A check of names is no refusal for a type. -/
theorem ensureUnique_ne_unsupportedShape {scope : Scope} {names : List (String × String)}
    {owner name : String} {shape : UnsupportedShape} :
    ensureUnique scope names ≠ .error (.unsupportedShape owner name shape) := by
  unfold ensureUnique
  split <;> simp

/-- A type that is refused for the type of a field is refused for the first such field. -/
theorem NamedType.isFirstDoubled_of_declare {type : NamedType} {action : UnsupportedAction}
    {owner name : String} {shape : UnsupportedShape}
    (h : (type.declare action).result = .error (.unsupportedShape owner name shape)) :
    IsFirstDoubled type.ownedFields owner name shape := by
  have hclassified : ∀ {result : Except GenerateError Declaration},
      (declare.classified type result).result = .error (.unsupportedShape owner name shape) →
        result = .error (.unsupportedShape owner name shape) := by
    intro result hresult
    rwa [result_classified, Fallible.map_eq_error] at hresult
  unfold ownedFields fields
  cases hbody : type.body with
  | bare kind =>
    rw [declare, hbody] at h
    cases action <;> cases h
  | scalar =>
    rw [declare, hbody] at h
    cases hclassified h
  | object fields =>
    rw [declare, hbody] at h
    rcases Fallible.bind_eq_error.mp (hclassified h) with hfields | ⟨_, -, hunique⟩
    · exact .of_mapM (fun _ _ => Field.declare_eq_error) hfields
    · exact absurd (Fallible.bind_pure_eq_error.mp hunique) ensureUnique_ne_unsupportedShape
  | enum values =>
    rw [declare, hbody] at h
    exact absurd (Fallible.bind_pure_eq_error.mp (hclassified h)) ensureUnique_ne_unsupportedShape

namespace TypeGraph

variable {graph : TypeGraph} {action : UnsupportedAction} {owner name : String}
  {shape : UnsupportedShape}

/-- The types of fields of a type that is declared or left out resolve. -/
theorem forall_ownedFields {type : NamedType} (h : type.Declarable action) :
    ∀ visited ∈ type.ownedFields, visited.2.type.isDoubledNonNull = false := by
  rw [NamedType.ownedFields, List.forall_mem_map]
  exact h.resolvable

/-- If the types of a graph are refused for the type of a field, it is the first such field in
them. -/
theorem isFirstDoubled_of_declareTypes
    (h : (graph.declareTypes action).result = .error (.unsupportedShape owner name shape)) :
    IsFirstDoubled (graph.typesBesideRoot.flatMap (·.ownedFields)) owner name shape := by
  rw [result_declareTypes, declarable_eq, Fallible.map_eq_error] at h
  obtain ⟨front, type, back, htypes, hfront, htype⟩ := Fallible.mapM_eq_error.mp h
  rw [NamedType.declareNamed, Logged.result_bind] at htype
  have howned := NamedType.isFirstDoubled_of_declare (Fallible.bind_pure_eq_error.mp htype)
  rw [htypes, List.flatMap_append, List.flatMap_cons]
  apply (howned.append _).append_left
  rw [List.forall_mem_flatMap]
  intro earlier hearlier
  obtain ⟨entry, hentry⟩ := hfront earlier hearlier
  exact forall_ownedFields (NamedType.result_declareNamed_eq_ok.mp hentry).1

/-- If the stubs of a graph are refused for the type of a field, it is the first such field of
the query root. -/
theorem isFirstDoubled_of_declareQueries
    (h : graph.declareQueries.result = .error (.unsupportedShape owner name shape)) :
    IsFirstDoubled (graph.root?.toList.flatMap (·.ownedFields)) owner name shape := by
  unfold declareQueries at h
  rw [queryRoot?_eq] at h
  cases hroot : graph.root? with
  | none =>
    rw [hroot] at h
    cases h
  | some root =>
    rw [hroot] at h
    rw [Option.toList_some, List.flatMap_singleton]
    exact .of_mapM (fun _ _ => Field.declareQuery_eq_error) h

/-- A graph that is refused for the type of a field is refused for the first such field
that is looked at. -/
theorem isFirstDoubled_of_declarations
    (h : (graph.declarations action).result = .error (.unsupportedShape owner name shape)) :
    IsFirstDoubled graph.visitedFields owner name shape := by
  rw [visitedFields, List.flatMap_append]
  rw [result_declarations, Fallible.bind_eq_error] at h
  rcases h with htypes | ⟨declared, hdeclared, h⟩
  · exact (isFirstDoubled_of_declareTypes htypes).append _
  rcases Fallible.bind_eq_error.mp h with hunique | ⟨_, -, hqueries⟩
  · exact absurd hunique ensureUnique_ne_unsupportedShape
  · apply (isFirstDoubled_of_declareQueries (Fallible.map_eq_error.mp hqueries)).append_left
    rw [List.forall_mem_flatMap]
    exact fun type htype =>
      forall_ownedFields ((result_declareTypes_eq_ok.mp hdeclared).1 type htype)

/-- A graph that is refused for the type of a field has this field, and no field that is looked at
before it has a type with two non-null wrappers outermost. The type is shown with its name escaped,
so its notation is the one of the schema exactly if its name is no reserved word. -/
theorem unsupportedShape_is_first
    (h : (graph.declarations action).result = .error (.unsupportedShape owner name shape)) :
    ∃ front field back, graph.visitedFields = front ++ (owner, field) :: back ∧
      (∃ type ∈ graph.types, type.name = owner ∧ field ∈ type.fields) ∧ field.name = name ∧
      (∃ inner, field.type = .nonNull (.nonNull inner)) ∧
      (∀ earlier ∈ front, ¬ ∃ inner, earlier.2.type = .nonNull (.nonNull inner)) ∧
      shape.type = field.type.mapNames Identifier.escape ∧
      (shape.type.text = field.type.text ↔
        field.type.leaf ∉ Identifier.pathWords ∧ field.type.leaf ∉ Identifier.keywords) := by
  obtain ⟨front, field, back, hvisited, hfront, hdoubled, rfl, rfl⟩ :=
    isFirstDoubled_of_declarations h
  have hmem : (owner, field) ∈ graph.visitedFields := by
    rw [hvisited]
    exact List.mem_append_right front List.mem_cons_self
  refine ⟨front, field, back, hvisited, exists_of_mem_visitedFields hmem, rfl,
    TypeRef.isDoubledNonNull_iff.mp hdoubled, ?_, rfl, ?_⟩
  · intro earlier hearlier
    rw [← TypeRef.isDoubledNonNull_iff, Bool.not_eq_true]
    exact hfront earlier hearlier
  · rw [TypeRef.text_mapNames_eq_iff, Identifier.escape_eq_self_iff]

/-- Behind a field that resolves, a field is refused in the notation of the schema. The query root,
which comes first in the graph and has such a field as well, is looked at last. -/
theorem unsupportedShape_is_first_before_root :
    let refused : Field := ⟨"b", none, .nonNull (.nonNull (.list (.named "Int")))⟩
    let graph : TypeGraph :=
      ⟨[⟨"Query", none, .object [⟨"q", none, .nonNull (.nonNull (.named "Self"))⟩]⟩,
        ⟨"T", none, .object [⟨"a", none, .nonNull (.named "type")⟩, refused]⟩], none⟩
    let shape : UnsupportedShape := ⟨refused.type⟩
    (graph.declarations .deny).result = .error (.unsupportedShape "T" "b" shape) ∧
      ∃ front field back, graph.visitedFields = front ++ ("T", field) :: back ∧ field.name = "b" ∧
        (∃ inner, field.type = .nonNull (.nonNull inner)) ∧
        (∀ earlier ∈ front, ¬ ∃ inner, earlier.2.type = .nonNull (.nonNull inner)) ∧
        shape.type = field.type.mapNames Identifier.escape := by
  intro refused graph shape
  have h : (graph.declarations .deny).result = .error (.unsupportedShape "T" "b" shape) := by
    decide +kernel
  obtain ⟨front, field, back, hvisited, -, hname, hdoubled, hfront, hshape, -⟩ :=
    unsupportedShape_is_first h
  exact ⟨h, front, field, back, hvisited, hname, hdoubled, hfront, hshape⟩

/-- A field whose type is named like a keyword is refused with a notation that no field
of the graph has. -/
theorem not_schema_notation_keyword :
    let type : NamedType := ⟨"T", none, .object [⟨"f", none, .nonNull (.nonNull (.named "type"))⟩]⟩
    let graph : TypeGraph := ⟨[type], none⟩
    let shape : UnsupportedShape := ⟨.nonNull (.nonNull (.named "r#type"))⟩
    TypeGraph.empty.insert type = .ok graph ∧
      (graph.declarations .deny).result = .error (.unsupportedShape "T" "f" shape) ∧
      shape.type.text = "r#type!!" ∧
      ∀ type ∈ graph.types, ∀ field ∈ type.fields, shape.type.text ≠ field.type.text := by
  intro type graph shape
  exact ⟨rfl, by decide +kernel, by decide +kernel, by decide +kernel⟩

end TypeGraph

end SdlCodegen
