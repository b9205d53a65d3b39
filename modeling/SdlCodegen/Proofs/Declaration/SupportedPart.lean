import SdlCodegen.Generate
import SdlCodegen.Proofs.Declaration.Warnings
import SdlCodegen.Proofs.Schema.History

/-!
# The supported part of a graph

To leave out the types whose kind cannot be declared comes to the same as to refuse such types in
the graph without them: the declarations are the same, and so is the error if there is one. This
holds although the query root may be one of these types. It is left out without a warning then, and
no stub is lost, for only an object type has fields.

Errors of types that come before and after a type that is left out are the same because every type
is declared from itself alone.
-/

namespace SdlCodegen

namespace NamedType

/-- A type of a kind that cannot be declared gives nothing where it is not refused. -/
theorem result_declareNamed_warn {type : NamedType} (h : type.kind.isSupported = false) :
    (type.declareNamed .warn).result = .ok none := by
  obtain ⟨name, description, body⟩ := type
  cases body with
  | bare kind => rfl
  | scalar => cases h
  | object fields => cases h
  | enum values => cases h

/-- What is done with kinds that cannot be declared does not matter for a type of another kind. -/
theorem declareNamed_of_isSupported {type : NamedType} (h : type.kind.isSupported)
    (action other : UnsupportedAction) : type.declareNamed action = type.declareNamed other := by
  unfold declareNamed declare
  cases hbody : type.body with
  | bare unsupported => simp [kind, hbody, TypeBody.kind, TypeKind.isSupported] at h
  | scalar => rfl
  | object fields => rfl
  | enum values => rfl

end NamedType

namespace TypeGraph

/-- The graph without the types whose kind cannot be declared. The name of the query root stays,
even if that is the name of such a type. -/
def supportedPart (graph : TypeGraph) : TypeGraph :=
  { graph with types := graph.types.filter (·.kind.isSupported) }

/-- The types that are missing in the supported part. -/
def unsupportedTypes (graph : TypeGraph) : List NamedType :=
  graph.types.filter (!·.kind.isSupported)

/-- The types that are missing in the supported part, except the query root. -/
def skippedTypes (graph : TypeGraph) : List NamedType :=
  graph.unsupportedTypes.filter (·.name != graph.queryType)

/-- The types to be declared of the supported part are those of the graph with a kind that can
be. -/
theorem declarable_supportedPart (graph : TypeGraph) :
    graph.supportedPart.declarable = graph.declarable.filter (·.kind.isSupported) :=
  List.filter_comm _ _ _

/-- The supported part has the same type of a given name, if the kind of that can be declared. -/
theorem get?_supportedPart {graph : TypeGraph} (hdistinct : graph.names.Nodup) (name : String) :
    graph.supportedPart.get? name = (graph.get? name).filter (·.kind.isSupported) := by
  cases hfound : graph.get? name with
  | none =>
    have hnone : ∀ type ∈ graph.types, type.name ≠ name := by
      simpa using List.find?_eq_none.mp hfound
    refine List.find?_eq_none.mpr fun type htype => ?_
    simpa using hnone type (List.mem_of_mem_filter htype)
  | some found =>
    obtain ⟨hmem, rfl⟩ := mem_of_get?_eq_some hfound
    cases hkind : found.kind.isSupported with
    | true =>
      have hnames : graph.supportedPart.names.Nodup :=
        hdistinct.sublist (List.filter_sublist.map _)
      rw [Option.filter_some, if_pos hkind]
      exact get?_name hnames (List.mem_filter.mpr ⟨hmem, hkind⟩)
    | false =>
      rw [Option.filter_some, if_neg (by simp [hkind])]
      refine List.find?_eq_none.mpr fun type htype => ?_
      obtain ⟨htype, hother⟩ := List.mem_filter.mp htype
      intro hname
      rw [eq_of_name_eq hdistinct htype hmem (by simpa using hname), hkind] at hother
      cases hother

/-- The supported part has the same stubs: a query root that it lacks has no fields. -/
theorem result_declareQueries_supportedPart {graph : TypeGraph} (hdistinct : graph.names.Nodup) :
    graph.supportedPart.declareQueries.result = graph.declareQueries.result := by
  have hroot : graph.supportedPart.queryRoot? = graph.queryRoot?.filter (·.kind.isSupported) :=
    get?_supportedPart hdistinct graph.queryType
  unfold declareQueries
  rw [hroot]
  cases graph.queryRoot? with
  | none => rfl
  | some root =>
    obtain ⟨name, description, body⟩ := root
    cases body <;> rfl

/-- The types are declared alike, whether those of other kinds are left out or missing. -/
theorem result_declareTypes_supportedPart (graph : TypeGraph) :
    (graph.supportedPart.declareTypes .deny).result = (graph.declareTypes .warn).result := by
  rw [result_declareTypes, result_declareTypes, declarable_supportedPart]
  apply Fallible.mapM_filter_map_filterMap
  · intro type _ hkind
    rw [NamedType.declareNamed_of_isSupported hkind .warn .deny]
  · exact fun type _ hkind => NamedType.result_declareNamed_warn hkind

/-- The declarations are the same, whether types of other kinds are left out or missing. -/
theorem result_declarations_supportedPart {graph : TypeGraph} (hdistinct : graph.names.Nodup) :
    (graph.supportedPart.declarations .deny).result = (graph.declarations .warn).result := by
  rw [result_declarations, result_declarations, result_declareTypes_supportedPart,
    result_declareQueries_supportedPart hdistinct]

/-- Code is only given of a graph that has declarations. -/
theorem exists_declarations_of_generate {graph : TypeGraph} {options : GenerateOptions}
    {text : String} (h : (graph.generate options).result = .ok text) :
    ∃ declared, (graph.declarations options.unsupported).result = .ok declared := by
  rw [generate, Logged.result_bind, Fallible.bind_eq_ok] at h
  obtain ⟨declared, hdeclared, -⟩ := h
  exact ⟨declared, hdeclared⟩

/-- The code is printed from the declarations alone. -/
theorem result_generate_congr {graph other : TypeGraph} {action otherAction : UnsupportedAction}
    (h : (graph.declarations action).result = (other.declarations otherAction).result)
    (prelude : Bool) :
    (graph.generate ⟨action, prelude⟩).result = (other.generate ⟨otherAction, prelude⟩).result := by
  rw [generate, generate, Logged.result_bind, Logged.result_bind, h]

/-- Printing the code gives no warning. -/
theorem warnings_generate {graph : TypeGraph} {options : GenerateOptions}
    {declared : List Declaration}
    (h : (graph.declarations options.unsupported).result = .ok declared) :
    (graph.generate options).warnings = (graph.declarations options.unsupported).warnings := by
  rw [generate, Logged.warnings_bind h]
  exact List.append_nil _

/-- The types that are left out give one warning each, in order. -/
theorem map_some_filterMap_warning? (types : List NamedType) :
    (types.filterMap (·.warning?)).map some =
      (types.filter (!·.kind.isSupported)).map (·.warning?) := by
  induction types with
  | nil => rfl
  | cons type types ih =>
    cases hkind : type.kind.isSupported with
    | true =>
      rw [List.filterMap_cons_none (NamedType.warning?_eq_none.mpr hkind),
        List.filter_cons_of_neg (by simp [hkind]), ih]
    | false =>
      have hsome : type.warning? ≠ none := by
        simp [NamedType.warning?_eq_none, hkind]
      obtain ⟨warning, hwarning⟩ := Option.ne_none_iff_exists'.mp hsome
      rw [List.filterMap_cons_some hwarning, List.filter_cons_of_pos (by simp [hkind]),
        List.map_cons, List.map_cons, hwarning, ih]

/-- Where types are left out, the warnings are those about the types that the supported part
lacks. -/
theorem warnings_declarations {graph : TypeGraph} {declared : List Declaration}
    (h : (graph.declarations .warn).result = .ok declared) :
    (graph.declarations .warn).warnings.map some = graph.skippedTypes.map (·.warning?) := by
  have hreports :
      (graph.declarations .warn).warnings = graph.typesBesideRoot.filterMap (·.warning?) :=
    reports_typesBesideRoot h
  rw [hreports, map_some_filterMap_warning?, typesBesideRoot, skippedTypes, unsupportedTypes,
    List.filter_comm]

/-- Where no kind had to be refused there is nothing to leave out. -/
theorem result_declarations_warn_of_deny {graph : TypeGraph} {declared : List Declaration}
    (h : (graph.declarations .deny).result = .ok declared) :
    (graph.declarations .warn).result = .ok declared := by
  obtain ⟨hdeclarable, rfl⟩ := result_declarations_eq_ok.mp h
  refine result_declarations_eq_ok.mpr ⟨⟨fun type htype => ?_, hdeclarable.resolvable,
    hdeclarable.distinctTypes⟩, rfl⟩
  have htypes := hdeclarable.types type htype
  exact ⟨by simp, htypes.resolvable, htypes.distinctFields, htypes.distinctValues⟩

/-- For the graph that any history leads to, leaving types out gives what refusing them gives for
the supported part, declarations and code and errors alike, with one warning about each type that
the supported part lacks but for the query root, in order. So what is given where types are refused
is also given where they are left out. -/
theorem leaving_out_eq_refusing (history : List Step) (prelude : Bool) :
    let graph := empty.after history
    (graph.declarations .warn).result = (graph.supportedPart.declarations .deny).result ∧
    (graph.generate ⟨.warn, prelude⟩).result =
      (graph.supportedPart.generate ⟨.deny, prelude⟩).result ∧
    (∀ declared, (graph.declarations .warn).result = .ok declared →
      (graph.declarations .warn).warnings.map some = graph.skippedTypes.map (·.warning?)) ∧
    (∀ text, (graph.generate ⟨.warn, prelude⟩).result = .ok text →
      (graph.generate ⟨.warn, prelude⟩).warnings.map some = graph.skippedTypes.map (·.warning?)) ∧
    (∀ declared, (graph.declarations .deny).result = .ok declared →
      (graph.declarations .warn).result = .ok declared) ∧
    ∀ text, (graph.generate ⟨.deny, prelude⟩).result = .ok text →
      (graph.generate ⟨.warn, prelude⟩).result = .ok text := by
  intro graph
  have hempty : empty.names.Nodup := List.nodup_nil
  have hdistinct : graph.names.Nodup := nodup_names_after hempty history
  have hdeclarations := (result_declarations_supportedPart hdistinct).symm
  refine ⟨hdeclarations, result_generate_congr hdeclarations prelude,
    fun _ => warnings_declarations, ?_, fun _ => result_declarations_warn_of_deny, ?_⟩
  · intro text htext
    obtain ⟨declared, hdeclared⟩ := exists_declarations_of_generate htext
    rw [warnings_generate hdeclared]
    exact warnings_declarations hdeclared
  · intro text htext
    obtain ⟨declared, hdeclared⟩ := exists_declarations_of_generate htext
    have hwarned := (result_declarations_warn_of_deny hdeclared).trans hdeclared.symm
    exact (result_generate_congr hwarned prelude).trans htext

/-- With an interface for a query root, a union is the only type that is left out with a warning. A
field of the type behind it still refers to the union. -/
theorem leaving_out_eq_refusing_root :
    let graph := empty.after
      [.parse ["interface Query \x7b a: Int \x7d union U type T \x7b u: U \x7d"]]
    let declared : List Declaration :=
      [.object "T" none [⟨"u", .generic "Option" (.name "U"), none⟩]]
    (graph.declarations .warn).result = .ok declared ∧
      (graph.supportedPart.declarations .deny).result = .ok declared ∧
      (graph.declarations .deny).result = .error (.unsupportedKind "U" .union) ∧
      (graph.declarations .warn).warnings.map some = [some (.skipped "U" .union)] := by
  intro graph declared
  have hgraph : graph = ⟨[⟨"Query", none, .bare .interface⟩, ⟨"U", none, .bare .union⟩,
      ⟨"T", none, .object [⟨"u", none, .named "U"⟩]⟩], none⟩ := by
    decide +kernel
  obtain ⟨hsame, -, hwarnings, -⟩ := leaving_out_eq_refusing
    [.parse ["interface Query \x7b a: Int \x7d union U type T \x7b u: U \x7d"]] false
  have hdeclared : (graph.declarations .warn).result = .ok declared := by
    rw [hgraph]
    decide +kernel
  refine ⟨hdeclared, hsame.symm.trans hdeclared, ?_, ?_⟩
  · rw [hgraph]
    rfl
  · refine (hwarnings declared hdeclared).trans ?_
    change graph.skippedTypes.map _ = _
    rw [hgraph]
    rfl

end TypeGraph

end SdlCodegen
