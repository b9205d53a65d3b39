import SdlCodegen.Proofs.Declaration.Listing

/-!
# Types that are left out

A type of a kind that cannot be declared is refused or left out with a warning, unless it is the
query root. The query root is told by its name before its kind is looked at, so one of such a kind
is left out without a word: it has no fields that could become stubs. The default query root, one
that a schema text names and one that is chosen are alike in this.
-/

namespace SdlCodegen

/-- Whether an event is a warning. -/
def Event.isWarning (event : Event) : Bool :=
  event.level = .warn

namespace Logged

variable {ε α β : Type}

/-- The warnings that a computation reports, in order. -/
def warnings (computation : Logged ε α) : List Event :=
  computation.events.filter Event.isWarning

/-- A chain whose first part succeeds reports the warnings of both parts. -/
theorem warnings_bind {first : Logged ε α} {next : α → Logged ε β} {value : α}
    (h : first.result = .ok value) :
    (first >>= next).warnings = first.warnings ++ (next value).warnings := by
  obtain ⟨events, result⟩ := first
  cases h
  exact List.filter_append events (next value).events

/-- A computation on a list that succeeds reports the warnings on each element, in order. -/
theorem warnings_mapM {f : α → Logged ε β} {items : List α} {values : List β}
    (h : (items.mapM f).result = .ok values) :
    (items.mapM f).warnings = items.flatMap fun item => (f item).warnings := by
  induction items generalizing values with
  | nil => rfl
  | cons item items ih =>
    rw [List.mapM_cons, result_bind, Fallible.bind_eq_ok] at h
    obtain ⟨value, hvalue, hrest⟩ := h
    rw [result_bind, Fallible.bind_eq_ok] at hrest
    obtain ⟨others, hothers, -⟩ := hrest
    have hlast : (pure (value :: others) : Logged ε (List β)).warnings = [] := rfl
    rw [List.mapM_cons, warnings_bind hvalue, warnings_bind hothers, ih hothers, hlast,
      List.append_nil, List.flatMap_cons]

end Logged

/-- The warning about a type of a kind that cannot be declared. -/
def NamedType.warning? (type : NamedType) : Option Event :=
  match type.body with
  | .bare kind => some (.skipped type.name kind)
  | _ => none

/-- Only kinds that can be declared give no warning. -/
theorem NamedType.warning?_eq_none {type : NamedType} :
    type.warning? = none ↔ type.kind.isSupported := by
  obtain ⟨name, description, body⟩ := type
  cases body <;> simp [warning?, kind, TypeBody.kind, TypeKind.isSupported]

/-- Where a type is not refused, it gives its warning and no other. -/
theorem NamedType.warnings_declareNamed (type : NamedType) :
    (type.declareNamed .warn).warnings = type.warning?.toList := by
  have hclassified : ∀ result : Except GenerateError Declaration,
      ((declare.classified type result >>= fun declared =>
        pure (declared.map (type.name, ·)) : Logged GenerateError _)).warnings = [] := by
    intro result
    cases result <;> rfl
  unfold declareNamed declare warning?
  cases type.body with
  | bare kind => rfl
  | scalar => exact hclassified _
  | object fields => exact hclassified _
  | enum values => exact hclassified _

namespace TypeGraph

/-- The types of a graph give their warnings and no other. -/
theorem warnings_declareTypes {graph : TypeGraph} {declared : List (String × Declaration)}
    (h : (graph.declareTypes .warn).result = .ok declared) :
    (graph.declareTypes .warn).warnings = graph.typesBesideRoot.filterMap (·.warning?) := by
  change (graph.declarable.mapM (NamedType.declareNamed .warn) >>= _).result = _ at h
  rw [declarable_eq, Logged.result_bind, Fallible.bind_eq_ok] at h
  obtain ⟨entries, hentries, -⟩ := h
  change (graph.declarable.mapM (NamedType.declareNamed .warn) >>= _).warnings = _
  rw [declarable_eq, Logged.warnings_bind hentries, Logged.warnings_mapM hentries]
  simp only [NamedType.warnings_declareNamed, List.filterMap_eq_flatMap_toList]
  exact List.append_nil _

/-- The stubs give no warning, not even if there are none. -/
theorem warnings_declareQueries (graph : TypeGraph) : graph.declareQueries.warnings = [] := by
  unfold declareQueries
  cases graph.queryRoot? with
  | none => rfl
  | some root => rfl

/-- No type among given ones goes unnoticed for its kind: if such types are refused there is none,
and if they are left out there is one warning about each of them, in order, and no other. -/
def Reports (graph : TypeGraph) (types : List NamedType) : UnsupportedAction → Prop
  | .deny => ∀ type ∈ types, type.kind.isSupported
  | .warn => (graph.declarations .warn).warnings = types.filterMap (·.warning?)

/-- No type but the query root goes unnoticed. -/
theorem reports_typesBesideRoot {graph : TypeGraph} {action : UnsupportedAction}
    {declared : List Declaration} (h : (graph.declarations action).result = .ok declared) :
    graph.Reports graph.typesBesideRoot action := by
  cases action with
  | deny =>
    obtain ⟨hdeclarable, -⟩ := result_declarations_eq_ok.mp h
    exact fun type htype => (hdeclarable.types type htype).supported rfl
  | warn =>
    rw [declarations, Logged.result_bind, Fallible.bind_eq_ok] at h
    obtain ⟨entries, hentries, h⟩ := h
    rw [Logged.result_bind, Logged.result_ofExcept, Fallible.check_bind_eq_ok] at h
    obtain ⟨hunique, h⟩ := h
    rw [Logged.result_bind, Fallible.bind_eq_ok] at h
    obtain ⟨stubs, hstubs, -⟩ := h
    rw [Reports, declarations, Logged.warnings_bind hentries, Logged.warnings_bind hunique,
      Logged.warnings_bind hstubs, warnings_declareTypes hentries, warnings_declareQueries]
    exact List.append_nil _

/-- Leaving out elements changes what is made of a list, unless nothing is made of them. -/
theorem filterMap_filter_eq_iff {α β : Type} {p : α → Bool} {f : α → Option β} {items : List α} :
    (items.filter p).filterMap f = items.filterMap f ↔
      ∀ item ∈ items, p item = false → f item = none := by
  induction items with
  | nil => simp
  | cons item items ih =>
    rw [List.forall_mem_cons, ← ih]
    cases hkept : p item with
    | true => cases hmade : f item <;> simp [hkept, hmade]
    | false =>
      cases hmade : f item with
      | none => simp [hkept, hmade]
      | some made =>
        have hne : (items.filter p).filterMap f ≠ (item :: items).filterMap f := by
          have hshort : ((items.filter p).filterMap f).length ≤ (items.filterMap f).length :=
            (List.filter_sublist.filterMap f).length_le
          intro heq
          rw [heq, List.filterMap_cons_some hmade, List.length_cons] at hshort
          omega
        simpa [hkept] using hne

/-- The types of a graph are reported exactly if the query root, where there is one, has a kind that
can be declared. All other types always are. -/
theorem reports_types_iff {graph : TypeGraph} {action : UnsupportedAction}
    {declared : List Declaration} (h : (graph.declarations action).result = .ok declared) :
    graph.Reports graph.typesBesideRoot action ∧
      (graph.Reports graph.types action ↔
        ∀ type ∈ graph.types, type.name = graph.queryType → type.kind.isSupported) := by
  have hothers := reports_typesBesideRoot h
  refine ⟨hothers, ?_⟩
  cases action with
  | deny =>
    constructor
    · exact fun hall type htype _ => hall type htype
    · intro hroot type htype
      by_cases hname : type.name = graph.queryType
      · exact hroot type htype hname
      · exact hothers type (List.mem_filter.mpr ⟨htype, bne_iff_ne.mpr hname⟩)
  | warn =>
    rw [Reports] at hothers ⊢
    rw [hothers, typesBesideRoot, filterMap_filter_eq_iff]
    simp only [bne_eq_false_iff_eq, NamedType.warning?_eq_none]

/-- Beside a query root that is an object type a union is reported. -/
theorem reports_types_iff_union :
    let graph : TypeGraph :=
      ⟨[⟨"Query", none, .object [⟨"a", none, .named "Int"⟩]⟩, ⟨"U", none, .bare .union⟩], none⟩
    (graph.declarations .warn).result =
        .ok [.query "a" "a" (.generic "Option" (.name "Int")) none] ∧
      graph.Reports graph.typesBesideRoot .warn ∧ graph.Reports graph.types .warn := by
  intro graph
  have h : (graph.declarations .warn).result =
      .ok [.query "a" "a" (.generic "Option" (.name "Int")) none] := by
    decide +kernel
  obtain ⟨hothers, hiff⟩ := reports_types_iff h
  exact ⟨h, hothers, hiff.mpr (by decide)⟩

/-- An interface that is the query root goes unnoticed, whether its kind is refused or left out. -/
theorem not_reports_root_interface :
    let graph : TypeGraph := ⟨[⟨"Query", none, .bare .interface⟩], none⟩
    (ofTexts ["interface Query \x7b a: Int \x7d"]).result = .ok graph ∧
      (graph.declarations .deny).result = .ok [] ∧ ¬ graph.Reports graph.types .deny ∧
      (graph.declarations .warn).result = .ok [] ∧ ¬ graph.Reports graph.types .warn := by
  intro graph
  have hgraph : (ofTexts ["interface Query \x7b a: Int \x7d"]).result = .ok graph := by
    decide +kernel
  refine ⟨hgraph, rfl, ?_, rfl, ?_⟩
  · intro hreports
    exact absurd (hreports ⟨"Query", none, .bare .interface⟩ List.mem_cons_self) (by decide)
  · intro hreports
    have hnone : ([] : List Event) = [.skipped "Query" .interface] := hreports
    exact absurd hnone (by decide)

end TypeGraph

end SdlCodegen
