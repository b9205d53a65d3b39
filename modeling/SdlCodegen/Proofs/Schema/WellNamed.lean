import SdlCodegen.Proofs.Schema.Merging
import SdlCodegen.Proofs.Sdl.WellNamed

/-!
# Names in the graph of source texts

A graph exists only of texts that can all be read, so every name and every type reference in it can
be written in the schema language. Choosing a query root changes no type.
-/

namespace SdlCodegen

/-- All names and types in a type graph can be written. -/
def TypeGraph.WellNamed (graph : TypeGraph) : Prop :=
  ∀ type ∈ graph.types, type.WellNamed

/-- Members that can be written may be added. -/
theorem TypeBody.WellNamed.mergedWith {body : TypeBody} {others : List TypeBody}
    (h : body.WellNamed) (hothers : ∀ other ∈ others, other.WellNamed) :
    (body.mergedWith others).WellNamed := by
  cases body with
  | scalar => exact h
  | object fields =>
    constructor
    · intro field hfield
      rcases List.mem_append.mp hfield with hown | hmore
      · exact h.fields field hown
      · obtain ⟨other, hother, hmem⟩ := List.mem_flatMap.mp hmore
        exact (hothers other hother).fields field hmem
    · simp [TypeBody.mergedWith, TypeBody.values]
  | enum values =>
    constructor
    · simp [TypeBody.mergedWith, TypeBody.fields]
    · intro value hvalue
      rcases List.mem_append.mp hvalue with hown | hmore
      · exact h.values value hown
      · obtain ⟨other, hother, hmem⟩ := List.mem_flatMap.mp hmore
        exact (hothers other hother).values value hmem
  | bare kind => exact h

/-- A type may be extended by types that can be written. -/
theorem NamedType.WellNamed.mergedWith {type : NamedType} {extensions : List NamedType}
    (h : type.WellNamed) (hextensions : ∀ extension ∈ extensions, extension.WellNamed) :
    (type.mergedWith extensions).WellNamed := by
  constructor
  · exact h.name
  · apply h.body.mergedWith
    intro body hbody
    obtain ⟨extension, hextension, rfl⟩ := List.mem_map.mp hbody
    exact (hextensions extension (List.mem_of_mem_filter hextension)).body

/-- Source texts are taken in only if each of them can be read. -/
theorem SchemaDraft.exists_documents {draft final : SchemaDraft} {index : Nat} {texts : List String}
    (h : draft.addSources index texts = .ok final) :
    ∃ documents, texts.mapM Sdl.definitionsOf = .ok documents := by
  apply Fallible.exists_mapM_eq_ok
  induction texts generalizing draft index with
  | nil => simp
  | cons text texts ih =>
    obtain ⟨next, hnext, hrest⟩ := Fallible.bind_eq_ok.mp h
    obtain ⟨definitions, hread, -⟩ := Fallible.bind_eq_ok.mp hnext
    rw [List.forall_mem_cons]
    exact ⟨⟨definitions, Fallible.mapError_eq_ok.mp hread⟩, ih hrest⟩

namespace TypeGraph

/-- Texts make a graph only if each of them can be read. -/
theorem exists_documents_of_ofTexts {texts : List String} {graph : TypeGraph}
    (h : (ofTexts texts).result = .ok graph) :
    ∃ documents, texts.mapM Sdl.definitionsOf = .ok documents := by
  rw [ofTexts, Logged.result_bind, Logged.result_ofExcept] at h
  obtain ⟨draft, hdraft, -⟩ := Fallible.bind_eq_ok.mp h
  exact SchemaDraft.exists_documents hdraft

/-- All names and types in the graph of texts can be written. -/
theorem wellNamed_of_ofTexts {texts : List String} {graph : TypeGraph}
    (h : (ofTexts texts).result = .ok graph) : graph.WellNamed := by
  obtain ⟨documents, hread⟩ := exists_documents_of_ofTexts h
  rw [result_ofTexts hread] at h
  obtain ⟨-, rfl⟩ := assemble_eq_ok.mp h
  have hdefinitions : ∀ definition ∈ documents.flatten, definition.WellNamed := by
    intro definition hdefinition
    obtain ⟨definitions, hmem, hdefinition⟩ := List.mem_flatten.mp hdefinition
    obtain ⟨text, -, htext⟩ := Fallible.exists_mem_of_mapM_eq_ok hread hmem
    exact Sdl.wellNamed_of_definitionsOf htext definition hdefinition
  have hextensions : ∀ extension ∈ (SchemaParts.ofDefinitions documents.flatten).extensions,
      extension.WellNamed := by
    intro extension hextension
    obtain ⟨definition, hmem, heq⟩ := List.mem_filterMap.mp hextension
    have hdefinition := hdefinitions definition hmem
    cases definition <;> cases heq
    exact hdefinition
  intro type htype
  obtain ⟨base, hbase, rfl⟩ := List.mem_map.mp htype
  obtain ⟨definition, hmem, heq⟩ := List.mem_filterMap.mp hbase
  have hdefinition := hdefinitions definition hmem
  cases definition <;> cases heq
  exact NamedType.WellNamed.mergedWith hdefinition hextensions

/-- Choosing a query root keeps what names a graph has. -/
theorem WellNamed.setQueryType {graph next : TypeGraph} {name : String} (h : graph.WellNamed)
    (hnext : graph.setQueryType name = .ok next) : next.WellNamed := by
  obtain ⟨-, rfl⟩ := setQueryType_eq_ok.mp hnext
  exact h

end TypeGraph

end SdlCodegen
