import SdlCodegen.Proofs.Schema.WellNamed
import SdlCodegen.Schema.History

/-!
# Graphs that a history reaches

Whatever the steps are, no two types of the graph that they lead to have one name, so look-up finds
exactly the types of the graph, and a query root that was chosen is one of them. A step that is
refused changes nothing, so a history may as well leave it out; a type is only added under a new
name, choosing a query root touches no type, and texts make a graph of their own.

That graph knows nothing of the graphs before it. So the chosen query root is the last one that a
step names, counted from the texts that made the graph.
-/

namespace SdlCodegen

namespace TypeGraph

/-- The chosen query root is one of the types. -/
def Rooted (graph : TypeGraph) : Prop :=
  ∀ name ∈ graph.chosenQueryType, name ∈ graph.names

/-- Look-up finds exactly the types of the graph if names are distinct. -/
theorem get?_eq_some_iff {graph : TypeGraph} (hdistinct : graph.names.Nodup) {name : String}
    {type : NamedType} : graph.get? name = some type ↔ type ∈ graph.types ∧ type.name = name := by
  constructor
  · exact mem_of_get?_eq_some
  · rintro ⟨hmem, rfl⟩
    exact get?_name hdistinct hmem

/-- The query root is missing exactly if no type has its name. -/
theorem queryRoot?_eq_none_iff {graph : TypeGraph} :
    graph.queryRoot? = none ↔ graph.queryType ∉ graph.names := by
  rw [← defines_iff, defines, queryRoot?, Option.isSome_iff_ne_none, not_not]

/-- The query root is missing only if none is chosen and none has the default name. -/
theorem Rooted.queryRoot?_eq_none_iff {graph : TypeGraph} (h : graph.Rooted) :
    graph.queryRoot? = none ↔ graph.chosenQueryType = none ∧ defaultQueryType ∉ graph.names := by
  rw [TypeGraph.queryRoot?_eq_none_iff, queryType]
  cases hchosen : graph.chosenQueryType with
  | none => simp
  | some name => simpa using h name hchosen

/-- The graph of texts has the parts of the texts, which fit together. -/
theorem exists_parts_of_ofTexts {texts : List String} {graph : TypeGraph}
    (h : (ofTexts texts).result = .ok graph) :
    ∃ documents, texts.mapM Sdl.definitionsOf = .ok documents ∧
      (SchemaParts.ofDefinitions documents.flatten).Consistent ∧
      graph.names = (SchemaParts.ofDefinitions documents.flatten).types.map (·.name) ∧
      graph.chosenQueryType = (SchemaParts.ofDefinitions documents.flatten).query := by
  obtain ⟨documents, hread⟩ := exists_documents_of_ofTexts h
  obtain ⟨hconsistent, rfl⟩ := assemble_eq_ok.mp ((result_ofTexts hread).symm.trans h)
  exact ⟨documents, hread, hconsistent, names_mergedWith ⟨_, none⟩ _, rfl⟩

/-- The types in the graph of texts have distinct names. -/
theorem nodup_names_of_ofTexts {texts : List String} {graph : TypeGraph}
    (h : (ofTexts texts).result = .ok graph) : graph.names.Nodup := by
  obtain ⟨documents, -, hconsistent, hnames, -⟩ := exists_parts_of_ofTexts h
  rw [hnames]
  exact hconsistent.distinct

/-- The query root that texts name is one of the types. -/
theorem rooted_of_ofTexts {texts : List String} {graph : TypeGraph}
    (h : (ofTexts texts).result = .ok graph) : graph.Rooted := by
  obtain ⟨documents, -, hconsistent, hnames, hquery⟩ := exists_parts_of_ofTexts h
  intro name hname
  rw [hnames]
  exact List.mem_map.mpr (hconsistent.rooted name (hquery ▸ hname))

/-- Adding a type under a new name keeps names distinct. -/
theorem nodup_names_insert {graph next : TypeGraph} {type : NamedType} (h : graph.names.Nodup)
    (hnext : graph.insert type = .ok next) : next.names.Nodup := by
  obtain ⟨hnew, rfl⟩ := insert_eq_ok.mp hnext
  have hnames : (graph.names ++ [type.name]).Nodup :=
    List.nodup_append_comm.mp (List.nodup_cons.mpr ⟨hnew, h⟩)
  simpa [names] using hnames

/-- Adding a type keeps the query root. -/
theorem Rooted.insert {graph next : TypeGraph} {type : NamedType} (h : graph.Rooted)
    (hnext : graph.insert type = .ok next) : next.Rooted := by
  obtain ⟨-, rfl⟩ := insert_eq_ok.mp hnext
  intro name hname
  have hmem : name ∈ graph.names := h name hname
  simpa [names] using Or.inl (List.mem_map.mp hmem)

/-- Adding a type puts it behind the others and leaves what is found under other names. -/
theorem get?_of_insert {graph next : TypeGraph} {type : NamedType}
    (hnext : graph.insert type = .ok next) {name : String} (hname : name ≠ type.name) :
    next.get? name = graph.get? name := by
  obtain ⟨-, rfl⟩ := insert_eq_ok.mp hnext
  have hother : (type.name == name) = false := by simpa using Ne.symm hname
  simp [get?, List.find?_append, hother]

end TypeGraph

namespace Step

/-- An accepted step gives its graph. -/
theorem perform_of_ok {graph next : TypeGraph} {step : Step} (h : step.apply graph = .ok next) :
    step.perform graph = next := by
  simp only [perform, h]

/-- A refused step leaves the graph as it was. -/
theorem perform_of_error {graph : TypeGraph} {step : Step} {error : SchemaError}
    (h : step.apply graph = .error error) : step.perform graph = graph := by
  simp only [perform, h]

/-- In place a step does what it does to the graph as a whole. In particular it checks
before it writes. -/
theorem run_edit (step : Step) (graph : TypeGraph) :
    step.edit.run graph =
      match step.apply graph with
      | .ok next => .ok () next
      | .error error => .error error graph := by
  cases step with
  | parse texts =>
    rw [edit, apply]
    cases (TypeGraph.ofTexts texts).result <;> rfl
  | insert type =>
    rw [edit, apply, TypeGraph.insert, EStateM.run_bind, EStateM.run_get]
    by_cases htaken : graph.defines type.name
    · simp [htaken]
    · simp [htaken]
  | setQueryType name =>
    rw [edit, apply, TypeGraph.setQueryType, EStateM.run_bind, EStateM.run_get]
    by_cases hdefined : graph.defines name
    · simp [hdefined]
    · simp [hdefined]

/-- A step that succeeds in place leaves the graph of the step. -/
theorem perform_of_run_edit_eq_ok {graph next : TypeGraph} {step : Step}
    (h : step.edit.run graph = .ok () next) :
    step.apply graph = .ok next ∧ step.perform graph = next := by
  rw [run_edit] at h
  cases hresult : step.apply graph with
  | error error => simp [hresult] at h
  | ok changed =>
    rw [hresult] at h
    cases h
    exact ⟨rfl, perform_of_ok hresult⟩

/-- A step that is refused in place has written nothing. -/
theorem perform_of_run_edit_eq_error {graph left : TypeGraph} {step : Step} {error : SchemaError}
    (h : step.edit.run graph = .error error left) : left = graph ∧ step.perform graph = graph := by
  rw [run_edit] at h
  cases hresult : step.apply graph with
  | error other =>
    rw [hresult] at h
    cases h
    exact ⟨rfl, perform_of_error hresult⟩
  | ok changed => simp [hresult] at h

/-- A step keeps names distinct. -/
theorem nodup_names_perform {graph : TypeGraph} (h : graph.names.Nodup) (step : Step) :
    (step.perform graph).names.Nodup := by
  cases hresult : step.apply graph with
  | error error => rwa [perform_of_error hresult]
  | ok next =>
    rw [perform_of_ok hresult]
    cases step with
    | parse texts => exact TypeGraph.nodup_names_of_ofTexts hresult
    | insert type => exact TypeGraph.nodup_names_insert h hresult
    | setQueryType name =>
      obtain ⟨-, rfl⟩ := TypeGraph.setQueryType_eq_ok.mp hresult
      exact h

/-- A step keeps the query root among the types. -/
theorem rooted_perform {graph : TypeGraph} (h : graph.Rooted) (step : Step) :
    (step.perform graph).Rooted := by
  cases hresult : step.apply graph with
  | error error => rwa [perform_of_error hresult]
  | ok next =>
    rw [perform_of_ok hresult]
    cases step with
    | parse texts => exact TypeGraph.rooted_of_ofTexts hresult
    | insert type => exact h.insert hresult
    | setQueryType name =>
      obtain ⟨hdefined, rfl⟩ := TypeGraph.setQueryType_eq_ok.mp hresult
      rintro _ ⟨⟩
      exact hdefined

/-- The query root that a step names. Texts name it in their last schema definition with a query. -/
def root? : Step → Option String
  | parse texts =>
    match texts.mapM Sdl.definitionsOf with
    | .ok documents => (SchemaParts.ofDefinitions documents.flatten).query
    | .error _ => none
  | insert _ => none
  | setQueryType name => some name

/-- The steps that made a graph, with one more step behind them. Texts make a graph of their own. -/
def followedBy (made : List Step) (step : Step) : List Step :=
  match step with
  | parse _ => [step]
  | _ => made ++ [step]

/-- The steps from the last texts on. -/
def sinceTexts (steps : List Step) : List Step :=
  steps.foldl followedBy []

/-- The query root that steps name last. -/
def lastRoot? (steps : List Step) : Option String :=
  (steps.filterMap (·.root?)).getLast?

/-- An accepted step keeps it so that the chosen query root is the one named last by the steps that
made the graph. -/
theorem chosenQueryType_of_ok {graph next : TypeGraph} {made : List Step} {step : Step}
    (h : graph.chosenQueryType = lastRoot? made) (hnext : step.apply graph = .ok next) :
    next.chosenQueryType = lastRoot? (followedBy made step) := by
  cases step with
  | parse texts =>
    obtain ⟨documents, hread, -, -, hquery⟩ := TypeGraph.exists_parts_of_ofTexts hnext
    have hroot : (parse texts).root? = next.chosenQueryType := by
      rw [hquery, root?, hread]
    rw [← hroot]
    cases hname : (parse texts).root? <;> simp [followedBy, lastRoot?, hname]
  | insert type =>
    obtain ⟨-, rfl⟩ := TypeGraph.insert_eq_ok.mp hnext
    simpa [followedBy, lastRoot?, root?] using h
  | setQueryType name =>
    obtain ⟨-, rfl⟩ := TypeGraph.setQueryType_eq_ok.mp hnext
    simp [followedBy, lastRoot?, root?]

end Step

namespace TypeGraph

/-- A history keeps names distinct. -/
theorem nodup_names_after {graph : TypeGraph} (h : graph.names.Nodup) (history : List Step) :
    (graph.after history).names.Nodup := by
  induction history generalizing graph with
  | nil => exact h
  | cons step history ih => exact ih (step.nodup_names_perform h)

/-- A history keeps the query root among the types. -/
theorem rooted_after {graph : TypeGraph} (h : graph.Rooted) (history : List Step) :
    (graph.after history).Rooted := by
  induction history generalizing graph with
  | nil => exact h
  | cons step history ih => exact ih (step.rooted_perform h)

/-- What the steps of a history answer, one after the other: the graph after the step, or
why it is refused. -/
def answers (graph : TypeGraph) : List Step → List (Except SchemaError TypeGraph)
  | [] => []
  | step :: history => step.apply graph :: (step.perform graph).answers history

/-- The steps of a history that are not refused. -/
def accepted (graph : TypeGraph) (history : List Step) : List Step :=
  ((history.zip (graph.answers history)).filter (·.2.isOk)).map (·.1)

/-- A step that is not refused stays. -/
theorem accepted_cons_of_ok {graph next : TypeGraph} {step : Step} (h : step.apply graph = .ok next)
    (history : List Step) : graph.accepted (step :: history) = step :: next.accepted history := by
  simp [accepted, answers, h, Step.perform_of_ok h, Except.isOk, Except.toBool]

/-- A step that is refused is left out. -/
theorem accepted_cons_of_error {graph : TypeGraph} {step : Step} {error : SchemaError}
    (h : step.apply graph = .error error) (history : List Step) :
    graph.accepted (step :: history) = graph.accepted history := by
  simp [accepted, answers, h, Step.perform_of_error h, Except.isOk, Except.toBool]

/-- Without the refused steps a history leads to the same graph. -/
theorem after_accepted (graph : TypeGraph) (history : List Step) :
    graph.after (graph.accepted history) = graph.after history := by
  induction history generalizing graph with
  | nil => rfl
  | cons step history ih =>
    change _ = (step.perform graph).after history
    cases hresult : step.apply graph with
    | error error => rw [accepted_cons_of_error hresult, ih, Step.perform_of_error hresult]
    | ok next =>
      rw [accepted_cons_of_ok hresult, Step.perform_of_ok hresult, ← ih]
      change (step.perform graph).after (next.accepted history) = _
      rw [Step.perform_of_ok hresult]

/-- Without the refused steps the other steps answer the same. -/
theorem answers_accepted (graph : TypeGraph) (history : List Step) :
    graph.answers (graph.accepted history) = (graph.answers history).filter (·.isOk) := by
  induction history generalizing graph with
  | nil => rfl
  | cons step history ih =>
    rw [answers]
    cases hresult : step.apply graph with
    | error error =>
      rw [accepted_cons_of_error hresult, ih, Step.perform_of_error hresult,
        List.filter_cons_of_neg (by simp [Except.isOk, Except.toBool])]
    | ok next =>
      rw [accepted_cons_of_ok hresult, answers, hresult, Step.perform_of_ok hresult, ih,
        List.filter_cons_of_pos rfl]

/-- The query root that a history leaves chosen is the one named last by the accepted steps, counted
from the texts that made the graph. -/
theorem chosenQueryType_after {graph : TypeGraph} {made : List Step}
    (h : graph.chosenQueryType = Step.lastRoot? made) (history : List Step) :
    (graph.after history).chosenQueryType =
      Step.lastRoot? ((graph.accepted history).foldl Step.followedBy made) := by
  induction history generalizing graph made with
  | nil => exact h
  | cons step history ih =>
    change ((step.perform graph).after history).chosenQueryType = _
    cases hresult : step.apply graph with
    | error error => rw [Step.perform_of_error hresult, accepted_cons_of_error hresult, ih h]
    | ok next =>
      rw [Step.perform_of_ok hresult, accepted_cons_of_ok hresult, List.foldl_cons,
        ih (Step.chosenQueryType_of_ok h hresult)]

/-- Whatever the history of a graph is, its types have distinct names, look-up finds exactly them,
and a query root that was chosen is one of them. So the query root is missing exactly if no
accepted step named one, the texts that made the graph included, and no type has the default name.
A step that is refused in place has not touched the graph; leaving out all of them changes neither
the graph nor what the other steps answer. A type that is added stands behind the others, which
stay as they are. -/
theorem after_sound (history : List Step) :
    let graph := empty.after history
    graph.names.Nodup ∧
    (∀ name type, graph.get? name = some type ↔ type ∈ graph.types ∧ type.name = name) ∧
    (∀ name, graph.chosenQueryType = some name → ∃ root ∈ graph.types, root.name = name) ∧
    (graph.queryRoot? = none ↔
      (∀ step ∈ Step.sinceTexts (empty.accepted history), step.root? = none) ∧
        ∀ type ∈ graph.types, type.name ≠ defaultQueryType) ∧
    (∀ (step : Step) (next : TypeGraph), step.edit.run graph = .ok () next →
      step.apply graph = .ok next ∧ step.perform graph = next) ∧
    (∀ (step : Step) (error : SchemaError) (left : TypeGraph),
      step.edit.run graph = .error error left →
      left = graph ∧ step.perform graph = graph) ∧
    empty.after (empty.accepted history) = graph ∧
    empty.answers (empty.accepted history) = (empty.answers history).filter (·.isOk) ∧
    ∀ type next, graph.insert type = .ok next →
      next.types = graph.types ++ [type] ∧ next.chosenQueryType = graph.chosenQueryType ∧
        ∀ name, name ≠ type.name → next.get? name = graph.get? name := by
  intro graph
  have hempty : empty.names.Nodup := List.nodup_nil
  have hdistinct : graph.names.Nodup := nodup_names_after hempty history
  have hrooted : graph.Rooted := by
    refine rooted_after ?_ history
    rintro _ ⟨⟩
  have hchosen :
      graph.chosenQueryType = Step.lastRoot? (Step.sinceTexts (empty.accepted history)) :=
    chosenQueryType_after rfl history
  refine ⟨hdistinct, fun name type => get?_eq_some_iff hdistinct, ?_, ?_,
    fun _ _ => Step.perform_of_run_edit_eq_ok, fun _ _ _ => Step.perform_of_run_edit_eq_error,
    after_accepted _ _, answers_accepted _ _, ?_⟩
  · intro name hname
    exact List.mem_map.mp (hrooted name hname)
  · rw [hrooted.queryRoot?_eq_none_iff, hchosen, Step.lastRoot?, List.getLast?_eq_none_iff,
      List.filterMap_eq_nil_iff]
    simp [names]
  · intro type next hnext
    obtain ⟨-, rfl⟩ := insert_eq_ok.mp hnext
    exact ⟨rfl, rfl, fun name => get?_of_insert hnext⟩

/-- Refused steps of all three kinds leave no trace, and texts without a schema definition forget
the query root that was chosen before. -/
theorem after_sound_refusals :
    let history : List Step :=
      [.insert ⟨"A", none, .scalar⟩, .setQueryType "A", .insert ⟨"A", none, .enum []⟩,
        .parse ["scalar B scalar"], .setQueryType "B", .parse ["scalar B"],
        .insert ⟨"A", none, .enum []⟩]
    empty.accepted history = [.insert ⟨"A", none, .scalar⟩, .setQueryType "A", .parse ["scalar B"],
      .insert ⟨"A", none, .enum []⟩] ∧
    empty.after (empty.accepted history) = empty.after history ∧
    (empty.after history).get? "A" = some ⟨"A", none, .enum []⟩ ∧
    (empty.after history).queryRoot? = none := by
  intro history
  obtain ⟨-, hget, -, hroot, -, -, hafter, -, -⟩ := after_sound history
  refine ⟨by decide +kernel, hafter, (hget _ _).mpr (by decide +kernel),
    hroot.mpr (by decide +kernel)⟩

end TypeGraph

end SdlCodegen
