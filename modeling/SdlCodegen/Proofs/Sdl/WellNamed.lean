import SdlCodegen.Proofs.Fallible
import SdlCodegen.Proofs.Sdl.Names
import SdlCodegen.Sdl.Document

/-!
# Names in the definitions of a document

Every name in a definition that is read from a text, and every type reference, can be written in the
schema language. The property is lifted rule by rule through the grammar. Names that the grammar
reads and drops, such as those of directives and arguments, are left out.
-/

namespace SdlCodegen

/-- The name and the type of a field can be written. -/
structure Field.WellNamed (field : Field) : Prop where
  name : Sdl.isName field.name
  type : field.type.isWritable

/-- All names and types in a body can be written. -/
structure TypeBody.WellNamed (body : TypeBody) : Prop where
  fields : ∀ field ∈ body.fields, field.WellNamed
  values : ∀ value ∈ body.values, Sdl.isName value.name

/-- All names and types in a named type can be written. -/
structure NamedType.WellNamed (type : NamedType) : Prop where
  name : Sdl.isName type.name
  body : type.body.WellNamed

namespace Sdl

/-- All names and types that a definition brings into a type graph can be written. -/
def Definition.WellNamed : Definition → Prop
  | .type named => named.WellNamed
  | .extension named => named.WellNamed
  | .schema .. | .directive => True

namespace Reader

variable {α : Type} {P : α → Prop}

/-- An enum value is a name. -/
theorem yields_enumValue : enumValue.Yields fun value => isName value :=
  (Yields.then fun _ => yields_name).rule

/-- The definition of a field is well named. -/
theorem yields_field : field.Yields fun found => found.1.WellNamed := by
  apply Yields.rule
  refine Yields.then fun description => Yields.then fun _ => ?_
  refine yields_name.bind fun name hname => ?_
  refine Yields.then fun _ => Yields.then fun _ => Yields.then fun _ => Yields.then fun _ =>
    Yields.then fun _ => ?_
  refine yields_typeRef.bind fun type htype => ?_
  exact Yields.then fun _ => Yields.then fun _ => Yields.pure ⟨hname, htype⟩

/-- The fields of a block are well named. -/
theorem yields_fields : fields.Yields fun found => ∀ field ∈ found.1, field.WellNamed := by
  apply Yields.rule
  refine Yields.then fun _ => Yields.then fun _ => ?_
  refine yields_field.list1.bind fun members hmembers => ?_
  refine Yields.then fun _ => Yields.then fun _ => Yields.pure ?_
  exact List.forall_mem_map.mpr hmembers

/-- The definition of an enum value is well named. -/
theorem yields_enumMember : enumMember.Yields fun found => isName found.1.name := by
  apply Yields.rule
  refine Yields.then fun description => Yields.then fun _ => ?_
  refine yields_enumValue.bind fun value hvalue => ?_
  exact Yields.then fun _ => Yields.then fun _ => Yields.pure hvalue

/-- The enum values of a block are well named. -/
theorem yields_enumMembers :
    enumMembers.Yields fun found => ∀ value ∈ found.1, isName value.name := by
  apply Yields.rule
  refine Yields.then fun _ => Yields.then fun _ => ?_
  refine yields_enumMember.list1.bind fun members hmembers => ?_
  refine Yields.then fun _ => Yields.then fun _ => Yields.pure ?_
  exact List.forall_mem_map.mpr hmembers

/-- The members behind a name, if there are any, are those of the block. -/
theorem Yields.details {members : Reader (α × List PlacedNumber)}
    (h : members.Yields fun found => P found.1) :
    (details members).Yields fun found => ∀ value ∈ found.1, P value := by
  refine Yields.then fun _ => Yields.then fun _ => ?_
  refine h.optional.bind fun found hfound => ?_
  cases found with
  | none => exact Yields.pure (by simp)
  | some found => exact Yields.pure (by simpa using hfound found)

/-- The members of an extension, if there are any, are those of the block. -/
theorem Yields.extensionDetails {members : Reader (α × List PlacedNumber)}
    (h : members.Yields fun found => P found.1) :
    (extensionDetails members).Yields fun found => ∀ value ∈ found.1, P value := by
  refine Yields.orElse ?_ (Yields.then fun _ => Yields.pure (by simp))
  refine Yields.then fun _ => Yields.then fun _ => ?_
  exact h.bind fun found hfound => Yields.pure (by simpa using hfound)

/-- A type or an extension is well named if its body is. -/
theorem Yields.typeOf {kind : String} {inDefinition inExtension : Reader (α × List PlacedNumber)}
    {body : α → TypeBody} (hdefinition : inDefinition.Yields fun found => (body found.1).WellNamed)
    (hextension : inExtension.Yields fun found => (body found.1).WellNamed) :
    (Reader.typeOf kind inDefinition inExtension body).Yields fun clause =>
      clause.definition.WellNamed := by
  apply Yields.rule
  apply Yields.orElse
  · refine Yields.then fun _ => Yields.then fun _ => Yields.then fun _ => Yields.then fun _ => ?_
    refine yields_name.bind fun name hname => Yields.then fun _ => ?_
    exact hdefinition.bind fun found hfound => Yields.pure ⟨hname, hfound⟩
  · refine Yields.then fun _ => Yields.then fun _ => Yields.then fun _ => Yields.then fun _ => ?_
    refine yields_name.bind fun name hname => Yields.then fun _ => ?_
    exact hextension.bind fun found hfound => Yields.pure ⟨hname, hfound⟩

/-- A type without fields and values is well named if its name is. -/
theorem Yields.typeOf_bare {kind : String}
    {inDefinition inExtension : Reader (α × List PlacedNumber)} {body : TypeBody}
    (hfields : body.fields = []) (hvalues : body.values = []) :
    (Reader.typeOf kind inDefinition inExtension fun _ => body).Yields fun clause =>
      clause.definition.WellNamed := by
  have hbody : body.WellNamed := ⟨by simp [hfields], by simp [hvalues]⟩
  apply Yields.typeOf
  · exact fun _ _ _ _ => hbody
  · exact fun _ _ _ _ => hbody

/-- An object type is well named, also as an extension. -/
theorem yields_objectType : objectType.Yields fun clause => clause.definition.WellNamed := by
  have hbody : ∀ members : Option (List Field),
      (∀ fields ∈ members, ∀ field ∈ fields, field.WellNamed) →
        (TypeBody.object (members.getD [])).WellNamed := by
    rintro (_ | fields) hfields
    · exact ⟨by simp [TypeBody.fields], by simp [TypeBody.values]⟩
    · exact ⟨hfields fields rfl, by simp [TypeBody.values]⟩
  refine Yields.typeOf ?_ (Yields.orElse ?_ ?_)
  · refine Yields.then fun _ => Yields.then fun _ => ?_
    exact fun cursor found after heq =>
      hbody found.1 (yields_fields.details cursor found after heq)
  · refine Yields.then fun _ => Yields.then fun _ => ?_
    exact fun cursor found after heq =>
      hbody found.1 (yields_fields.extensionDetails cursor found after heq)
  · exact Yields.then fun _ => Yields.pure (hbody none (by simp))

/-- An enum is well named, also as an extension. -/
theorem yields_enumType : enumType.Yields fun clause => clause.definition.WellNamed := by
  have hbody : ∀ members : Option (List EnumValue),
      (∀ values ∈ members, ∀ value ∈ values, isName value.name) →
        (TypeBody.enum (members.getD [])).WellNamed := by
    rintro (_ | values) hvalues
    · exact ⟨by simp [TypeBody.fields], by simp [TypeBody.values]⟩
    · exact ⟨by simp [TypeBody.fields], hvalues values rfl⟩
  apply Yields.typeOf
  · exact fun cursor found after heq =>
      hbody found.1 (yields_enumMembers.details cursor found after heq)
  · exact fun cursor found after heq =>
      hbody found.1 (yields_enumMembers.extensionDetails cursor found after heq)

/-- The definition or extension of a type is well named, whatever its kind. -/
theorem yields_typeDefinition : typeDefinition.Yields fun clause => clause.definition.WellNamed :=
  Yields.rule <| (Yields.typeOf_bare rfl rfl).orElse <| yields_objectType.orElse <|
    (Yields.typeOf_bare rfl rfl).orElse <| (Yields.typeOf_bare rfl rfl).orElse <|
    yields_enumType.orElse <| Yields.typeOf_bare rfl rfl

/-- The definition of a schema brings no named type. -/
theorem yields_schemaDefinition :
    schemaDefinition.Yields fun clause => clause.definition.WellNamed := by
  apply Yields.rule
  apply Yields.orElse
  · refine Yields.then fun _ => Yields.then fun _ => Yields.then fun _ => Yields.pure True.intro
  · refine Yields.then fun _ => Yields.then fun _ => Yields.then fun _ => Yields.then fun _ => ?_
    exact Yields.then fun _ => Yields.pure True.intro

/-- The definition of a directive brings no named type. -/
theorem yields_directiveDefinition :
    directiveDefinition.Yields fun clause => clause.definition.WellNamed := by
  apply Yields.rule
  refine Yields.then fun _ => Yields.then fun _ => Yields.then fun _ => Yields.then fun _ =>
    Yields.then fun _ => Yields.then fun _ => Yields.then fun _ => Yields.then fun _ =>
    Yields.then fun _ => Yields.then fun _ => Yields.then fun _ => Yields.then fun _ =>
    Yields.then fun _ => Yields.then fun _ => Yields.then fun _ => Yields.pure True.intro

/-- All definitions of a document are well named. -/
theorem yields_document :
    document.Yields fun clauses => ∀ clause ∈ clauses, clause.definition.WellNamed := by
  have hdefinition : definition.Yields fun clause => clause.definition.WellNamed :=
    Yields.rule <| yields_schemaDefinition.orElse <| yields_typeDefinition.orElse
      yields_directiveDefinition
  refine Yields.rule (Yields.then fun _ => ?_)
  refine hdefinition.list1.bind fun clauses hclauses => ?_
  exact Yields.then fun _ => Yields.then fun _ => Yields.pure hclauses

end Reader

/-- A check passes the definition on as it was read. -/
theorem Clause.definition_of_check {text : List Char} {clause : Clause} {definition : Definition}
    (h : clause.check text = .ok definition) : definition = clause.definition := by
  unfold Clause.check at h
  split at h
  · cases h
  · obtain ⟨_, -, h⟩ := Fallible.bind_eq_ok.mp h
    cases h
    rfl

/-- The definitions of a text that is a schema document are well named. -/
theorem wellNamed_of_definitionsOf {text : String} {definitions : List Definition}
    (h : definitionsOf text = .ok definitions) :
    ∀ definition ∈ definitions, definition.WellNamed := by
  obtain ⟨clauses, hclauses, hchecked⟩ := Fallible.bind_eq_ok.mp h
  have hread : ∀ clause ∈ clauses, clause.definition.WellNamed := by
    dsimp only [clausesOf] at hclauses
    split at hclauses
    · next found after hvalue =>
      cases hclauses
      exact Reader.yields_document _ _ _ hvalue
    · cases hclauses
  intro definition hmem
  obtain ⟨clause, hclause, hcheck⟩ :=
    Fallible.exists_mem_of_mapM_eq_ok hchecked hmem
  rw [Clause.definition_of_check hcheck]
  exact hread clause hclause

end Sdl

end SdlCodegen
