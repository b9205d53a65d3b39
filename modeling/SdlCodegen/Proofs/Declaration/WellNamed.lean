import SdlCodegen.Declaration.OfGraph
import SdlCodegen.Declaration.Pieces
import SdlCodegen.Proofs.Schema.WellNamed
import SdlCodegen.Proofs.TypeExpr

/-!
# Names in declarations

The declarations of a well named type graph have identifiers for names and types that can be read
back, so every check made in printing them passes and nothing is changed by it. Declaring itself
fails only for a type of a kind that cannot be declared and for names that become one identifier.
-/

namespace SdlCodegen

open Layout (Piece)

/-- Whether an error is about a schema that is read but cannot be declared. -/
def GenerateError.isRefusal : GenerateError → Bool
  | unsupportedKind .. | duplicateIdentifier .. => true
  | _ => false

/-- The name of a field is an identifier and its type can be read back. -/
structure FieldDeclaration.WellNamed (field : FieldDeclaration) : Prop where
  ident : Identifier.isValid field.ident
  type : field.type.isWellNamed

namespace Declaration

/-- All names in a declaration are identifiers and all types in it can be read back. -/
def WellNamed : Declaration → Prop
  | scalar name _ => Identifier.isValid name
  | object name _ fields => Identifier.isValid name ∧ ∀ field ∈ fields, field.WellNamed
  | enum name _ variants =>
    Identifier.isValid name ∧ ∀ variant ∈ variants, Identifier.isValid variant.ident
  | query field method result _ =>
    Identifier.isValid (queryStruct field) ∧ Identifier.isValid method ∧ result.isWellNamed

/-- The pieces of a declaration if no check fails. -/
def layout : Declaration → List Piece
  | scalar name comment => scalarPieces name comment
  | object name comment fields =>
    objectPieces name comment (fields.map fun field => (field, field.type))
  | enum name comment variants => enumPieces name comment variants
  | query field method result comment => queryPieces (queryStruct field) method result comment

end Declaration

/-- An identifier passes its check. -/
theorem checkIdentifier_eq_ok {name : String} (h : Identifier.isValid name) :
    checkIdentifier name = .ok () := by
  rw [checkIdentifier, if_pos h]

/-- A type that can be read back is not changed by reading it back. -/
theorem checkType_eq_ok {owner field : String} {expression : TypeExpr}
    (h : expression.isWellNamed) : checkType owner field expression = .ok expression := by
  rw [checkType, TypeExpr.read?_text h]

/-- A well named field passes its check unchanged. -/
theorem FieldDeclaration.check_eq_ok {owner : String} {field : FieldDeclaration}
    (h : field.WellNamed) : field.check owner = .ok (field, field.type) := by
  rw [check, checkIdentifier_eq_ok h.ident, checkType_eq_ok h.type]
  rfl

/-- The pieces of a well named declaration are those of its layout. -/
theorem Declaration.pieces_eq_ok {declaration : Declaration} (h : declaration.WellNamed) :
    declaration.pieces = .ok declaration.layout := by
  cases declaration with
  | scalar name comment =>
    rw [pieces, checkIdentifier_eq_ok h]
    rfl
  | object name comment fields =>
    have hfields : fields.mapM (·.check name) =
        .ok (fields.map fun field => (field, field.type)) := by
      rw [Fallible.mapM_eq_ok, List.forall₂_map_right_iff]
      exact List.forall₂_same.mpr fun field hfield =>
        FieldDeclaration.check_eq_ok (h.2 field hfield)
    rw [pieces, hfields]
    change checkIdentifier name >>= _ = _
    rw [checkIdentifier_eq_ok h.1]
    rfl
  | enum name comment variants =>
    have hvariants : (variants.forM fun variant => checkIdentifier variant.ident) = .ok () :=
      Fallible.forM_eq_ok.mpr fun variant hvariant => checkIdentifier_eq_ok (h.2 variant hvariant)
    rw [pieces, hvariants, checkIdentifier_eq_ok h.1]
    rfl
  | query field method result comment =>
    rw [pieces, checkIdentifier_eq_ok h.1, checkIdentifier_eq_ok h.2.1, checkType_eq_ok h.2.2]
    rfl

/-- A well named field is declared, and its declaration is well named. -/
theorem Field.exists_declare_eq_ok (owner : String) {field : Field} (h : field.WellNamed) :
    ∃ declared, field.declare owner = .ok declared ∧ declared.WellNamed := by
  have hleaf : Identifier.isTypeName (field.type.mapNames Identifier.escape).leaf := by
    rw [TypeRef.leaf_mapNames]
    exact Identifier.isTypeName_escape (TypeRef.isName_leaf h.type)
  have hsingle : (field.type.mapNames Identifier.escape).isDoubledNonNull = false := by
    rw [TypeRef.isDoubledNonNull_mapNames]
    exact TypeRef.isDoubledNonNull_of_isWritable h.type
  obtain ⟨expression, hresolve, hexpression⟩ := TypeRef.exists_resolve_eq_ok hsingle hleaf
  have hident := Identifier.isTypeName_escape (isName_fieldName h.name)
  refine ⟨⟨Identifier.escape (fieldName field.name), expression, field.description⟩, ?_, ?_⟩
  · rw [declare, hresolve]
  · constructor
    · simpa only using Identifier.isValid_of_isTypeName hident
    · exact hexpression

/-- Only names that become one identifier keep a type with well named fields from being declared. -/
theorem NamedType.meets_declareObject {type : NamedType} {fields : List Field}
    (hname : Sdl.isName type.name) (hfields : ∀ field ∈ fields, field.WellNamed) :
    Fallible.Meets (·.WellNamed) (·.isRefusal) (type.declareObject fields) := by
  unfold declareObject
  have hdeclare : ∀ field ∈ fields,
      Fallible.Meets (·.WellNamed) (fun error => error.isRefusal) (field.declare type.name) := by
    intro field hfield
    obtain ⟨declared, hdeclared, hwell⟩ :=
      Field.exists_declare_eq_ok type.name (hfields field hfield)
    rw [hdeclared]
    exact hwell
  apply (Fallible.Meets.mapM hdeclare).bind
  intro declared hdeclared
  have hescape := Identifier.isValid_of_isTypeName (Identifier.isTypeName_escape hname)
  unfold ensureUnique
  split
  · exact rfl
  · exact ⟨hescape, hdeclared⟩

/-- Only values that become one identifier keep an enum of names from being declared. -/
theorem NamedType.meets_declareEnum {type : NamedType} {values : List EnumValue}
    (hname : Sdl.isName type.name) (hvalues : ∀ value ∈ values, Sdl.isName value.name) :
    Fallible.Meets (·.WellNamed) (·.isRefusal) (type.declareEnum values) := by
  have hescape := Identifier.isValid_of_isTypeName (Identifier.isTypeName_escape hname)
  have hvariants : ∀ variant ∈ values.map EnumValue.declare, Identifier.isValid variant.ident := by
    rw [List.forall_mem_map]
    intro value hvalue
    simp only [EnumValue.declare]
    exact Identifier.isValid_of_isTypeName
      (Identifier.isTypeName_escape (isName_variantName (hvalues value hvalue)))
  dsimp only [declareEnum, ensureUnique]
  split
  · exact rfl
  · exact ⟨hescape, hvariants⟩

/-- A well named type has a well named declaration or none, unless the schema cannot be declared. -/
theorem NamedType.meets_declare {action : UnsupportedAction} {type : NamedType}
    (h : type.WellNamed) :
    Fallible.Meets (fun declared => ∀ declaration ∈ declared, Declaration.WellNamed declaration)
      (·.isRefusal) (type.declare action).result := by
  have hclassified : ∀ result : Except GenerateError Declaration,
      Fallible.Meets (·.WellNamed) (·.isRefusal) result →
      Fallible.Meets (fun declared => ∀ declaration ∈ declared, Declaration.WellNamed declaration)
        (·.isRefusal) (declare.classified type result).result := by
    intro result hresult
    cases result with
    | ok declaration =>
      rintro _ ⟨⟩
      exact hresult
    | error error => exact hresult
  have hbody := h.body
  unfold declare
  cases heq : type.body with
  | bare kind =>
    cases action with
    | deny => exact rfl
    | warn => rintro _ ⟨⟩
  | scalar =>
    apply hclassified
    exact Identifier.isValid_of_isTypeName (Identifier.isTypeName_escape h.name)
  | object fields =>
    apply hclassified
    rw [heq] at hbody
    exact meets_declareObject h.name hbody.fields
  | enum values =>
    apply hclassified
    rw [heq] at hbody
    exact meets_declareEnum h.name hbody.values

/-- A well named field of the query root has a well named stub. -/
theorem Field.exists_declareQuery_eq_ok (owner : String) {field : Field} (h : field.WellNamed) :
    ∃ stub, field.declareQuery owner = .ok stub ∧ stub.WellNamed := by
  obtain ⟨declared, hdeclared, hwell⟩ := exists_declare_eq_ok owner h
  have hstruct : Sdl.isName (Declaration.queryStruct field.name) :=
    Sdl.isName_append h.name (by decide)
  refine ⟨.query field.name declared.ident declared.type declared.comment, ?_, ?_⟩
  · rw [declareQuery, hdeclared]
    rfl
  · exact ⟨Identifier.isValid_of_isName hstruct, hwell.ident, hwell.type⟩

/-- The declaration of a type with the name of the type, or nothing for a type that is left out. -/
def NamedType.declareNamed (action : UnsupportedAction) (type : NamedType) :
    Logged GenerateError (Option (String × Declaration)) := do
  return (← type.declare action).map (type.name, ·)

/-- A declaration is well named whatever name it goes with. -/
theorem NamedType.meets_declareNamed {action : UnsupportedAction} {type : NamedType}
    (h : type.WellNamed) :
    Fallible.Meets (fun declared => ∀ entry ∈ declared, entry.2.WellNamed) (·.isRefusal)
      (type.declareNamed action).result := by
  unfold declareNamed
  rw [Logged.result_bind]
  apply (meets_declare h).bind
  intro declared hdeclared
  simpa [Fallible.Meets] using hdeclared

namespace TypeGraph

/-- The types are declared one by one, and those that are left out are dropped. -/
theorem result_declareTypes (graph : TypeGraph) (action : UnsupportedAction) :
    (graph.declareTypes action).result =
      (graph.declarable.mapM fun type : NamedType => (type.declareNamed action).result).map
        (List.filterMap id) := by
  change (graph.declarable.mapM (NamedType.declareNamed action) >>= _).result = _
  rw [Logged.result_bind, Logged.result_mapM]
  cases graph.declarable.mapM fun type : NamedType => (type.declareNamed action).result <;> rfl

/-- The names of the declared types are compared before the stubs are made. -/
theorem result_declarations (graph : TypeGraph) (action : UnsupportedAction) :
    (graph.declarations action).result =
      (graph.declareTypes action).result >>= fun declared =>
        ensureUnique .schemaTypes (declared.map fun entry =>
          (entry.1, Identifier.escape entry.1)) >>=
          fun _ => graph.declareQueries.result.map (declared.map (·.2) ++ ·) := by
  unfold declarations
  simp only [Logged.result_bind, Logged.result_ofExcept]
  apply congrArg
  funext declared
  apply congrArg
  funext unique
  cases graph.declareQueries.result <;> rfl

/-- The declarations of the types of a well named graph are well named. -/
theorem WellNamed.meets_declareTypes {graph : TypeGraph} (h : graph.WellNamed)
    (action : UnsupportedAction) :
    Fallible.Meets (fun declared => ∀ entry ∈ declared, entry.2.WellNamed) (·.isRefusal)
      (graph.declareTypes action).result := by
  rw [result_declareTypes]
  have htype : ∀ type ∈ graph.declarable,
      Fallible.Meets (fun declared => ∀ entry ∈ declared, entry.2.WellNamed) (·.isRefusal)
        (type.declareNamed action).result :=
    fun type htype => NamedType.meets_declareNamed (h type (List.mem_of_mem_filter htype))
  apply (Fallible.Meets.mapM htype).map
  intro entries hentries entry hentry
  obtain ⟨found, hfound, rfl⟩ := List.mem_filterMap.mp hentry
  exact hentries _ hfound entry rfl

/-- The stubs of a well named graph are well named. -/
theorem WellNamed.meets_declareQueries {graph : TypeGraph} (h : graph.WellNamed) :
    Fallible.Meets (fun stubs => ∀ stub ∈ stubs, stub.WellNamed) (·.isRefusal)
      graph.declareQueries.result := by
  unfold declareQueries
  split
  · next root hroot =>
    have hmem : root ∈ graph.types := (mem_of_get?_eq_some hroot).1
    apply Fallible.Meets.mapM
    intro field hfield
    obtain ⟨stub, hstub, hwell⟩ :=
      Field.exists_declareQuery_eq_ok root.name ((h root hmem).body.fields field hfield)
    rw [hstub]
    exact hwell
  · rintro _ ⟨⟩

/-- The declarations of a well named graph are well named, unless the schema cannot be declared. -/
theorem WellNamed.meets_declarations {graph : TypeGraph} (h : graph.WellNamed)
    (action : UnsupportedAction) :
    Fallible.Meets (fun declared => ∀ declaration ∈ declared, declaration.WellNamed) (·.isRefusal)
      (graph.declarations action).result := by
  rw [result_declarations]
  apply (h.meets_declareTypes action).bind
  intro declared hdeclared
  unfold ensureUnique
  split
  · exact rfl
  · apply h.meets_declareQueries.map
    intro stubs hstubs
    rw [List.forall_mem_append, List.forall_mem_map]
    exact ⟨hdeclared, hstubs⟩

end TypeGraph

end SdlCodegen
