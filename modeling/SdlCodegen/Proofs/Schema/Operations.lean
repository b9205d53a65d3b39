import Mathlib.Data.List.Nodup
import SdlCodegen.Proofs.Fallible
import SdlCodegen.Schema.Graph

/-!
# What the operations on a type graph do

When adding a type, choosing the query root and extending a type succeed, and the graph that they
give. A type is extended in place: the name, the kind and the description of every type stay, and
members are only added behind those already there.
-/

namespace SdlCodegen

namespace TypeBody

/-- A body with the members of other bodies behind its own. -/
def mergedWith (body : TypeBody) (others : List TypeBody) : TypeBody :=
  match body with
  | object fields => object (fields ++ others.flatMap (·.fields))
  | enum values => enum (values ++ others.flatMap (·.values))
  | scalar => scalar
  | bare kind => bare kind

/-- A body is unchanged by no others. -/
@[simp] theorem mergedWith_nil (body : TypeBody) : body.mergedWith [] = body := by
  cases body <;> simp [mergedWith]

/-- Members may be added in two portions. -/
theorem mergedWith_append (body : TypeBody) (first second : List TypeBody) :
    body.mergedWith (first ++ second) = (body.mergedWith first).mergedWith second := by
  cases body <;> simp [mergedWith]

/-- Members do not change the kind. -/
@[simp] theorem kind_mergedWith (body : TypeBody) (others : List TypeBody) :
    (body.mergedWith others).kind = body.kind := by
  cases body <;> rfl

/-- Extending a body adds the members of an extension of the same kind. -/
theorem extend?_eq_some {body extension extended : TypeBody} :
    body.extend? extension = some extended ↔
      body.kind = extension.kind ∧ extended = body.mergedWith [extension] := by
  cases body <;> cases extension <;>
    simp [extend?, kind, mergedWith, TypeBody.fields, TypeBody.values, eq_comm]

end TypeBody

namespace NamedType

/-- A type with the members of the extensions that name it behind its own. -/
def mergedWith (type : NamedType) (extensions : List NamedType) : NamedType :=
  { type with
    body := type.body.mergedWith ((extensions.filter (·.name = type.name)).map (·.body)) }

@[simp] theorem name_mergedWith (type : NamedType) (extensions : List NamedType) :
    (type.mergedWith extensions).name = type.name := rfl

@[simp] theorem description_mergedWith (type : NamedType) (extensions : List NamedType) :
    (type.mergedWith extensions).description = type.description := rfl

@[simp] theorem kind_mergedWith (type : NamedType) (extensions : List NamedType) :
    (type.mergedWith extensions).kind = type.kind :=
  type.body.kind_mergedWith _

/-- Extensions of other types change nothing. -/
theorem mergedWith_of_forall_ne (type : NamedType) (extensions : List NamedType)
    (h : ∀ extension ∈ extensions, extension.name ≠ type.name) :
    type.mergedWith extensions = type := by
  have hnone : extensions.filter (·.name = type.name) = [] := by simpa using h
  simp [mergedWith, hnone]

@[simp] theorem mergedWith_nil (type : NamedType) : type.mergedWith [] = type :=
  type.mergedWith_of_forall_ne [] (by simp)

/-- Extensions may be merged in two portions. -/
theorem mergedWith_append (type : NamedType) (first second : List NamedType) :
    type.mergedWith (first ++ second) = (type.mergedWith first).mergedWith second := by
  simp only [mergedWith, List.filter_append, List.map_append, TypeBody.mergedWith_append]
  rfl

end NamedType

namespace TypeGraph

/-- A graph with all extensions merged into its types. -/
def mergedWith (graph : TypeGraph) (extensions : List NamedType) : TypeGraph :=
  { graph with types := graph.types.map (·.mergedWith extensions) }

/-- Merging keeps the names. -/
@[simp] theorem names_mergedWith (graph : TypeGraph) (extensions : List NamedType) :
    (graph.mergedWith extensions).names = graph.names := by
  simp [mergedWith, names]

/-- Extensions may be merged in two portions. -/
theorem mergedWith_append (graph : TypeGraph) (first second : List NamedType) :
    graph.mergedWith (first ++ second) = (graph.mergedWith first).mergedWith second := by
  simp [mergedWith, NamedType.mergedWith_append]

/-- A name is defined exactly if a type has it. -/
theorem defines_iff {graph : TypeGraph} {name : String} :
    graph.defines name ↔ name ∈ graph.names := by
  simp [defines, get?, names]

/-- A type that is found is in the graph and has the name. -/
theorem mem_of_get?_eq_some {graph : TypeGraph} {name : String} {type : NamedType}
    (h : graph.get? name = some type) : type ∈ graph.types ∧ type.name = name :=
  ⟨List.mem_of_find?_eq_some h, by simpa using List.find?_some h⟩

/-- Types of one name are equal if names are distinct. -/
theorem eq_of_name_eq {graph : TypeGraph} (hdistinct : graph.names.Nodup) {type other : NamedType}
    (htype : type ∈ graph.types) (hother : other ∈ graph.types) (hname : type.name = other.name) :
    type = other :=
  List.inj_on_of_nodup_map hdistinct htype hother hname

/-- Look-up finds a type of the graph by its name if names are distinct. -/
theorem get?_name {graph : TypeGraph} (hdistinct : graph.names.Nodup) {type : NamedType}
    (hmem : type ∈ graph.types) : graph.get? type.name = some type := by
  cases hfound : graph.get? type.name with
  | none => simpa using List.find?_eq_none.mp hfound type hmem
  | some found =>
    obtain ⟨hin, hname⟩ := mem_of_get?_eq_some hfound
    rw [eq_of_name_eq hdistinct hin hmem hname]

/-- Adding a type succeeds exactly if its name is new. -/
theorem insert_eq_ok {graph next : TypeGraph} {type : NamedType} :
    graph.insert type = .ok next ↔
      type.name ∉ graph.names ∧ next = { graph with types := graph.types ++ [type] } := by
  rw [← defines_iff, insert]
  by_cases h : graph.defines type.name
  · simp [h]
  · rw [if_neg h, Except.ok.injEq, and_iff_right h]
    exact eq_comm

/-- Adding a type fails exactly if its name is taken. -/
theorem insert_eq_error {graph : TypeGraph} {type : NamedType} {error : SchemaError} :
    graph.insert type = .error error ↔
      type.name ∈ graph.names ∧ error = .duplicateType type.name := by
  rw [← defines_iff, insert]
  by_cases h : graph.defines type.name
  · rw [if_pos h, Except.error.injEq, and_iff_right h]
    exact eq_comm
  · simp [h]

/-- Choosing the query root succeeds exactly if it is defined. -/
theorem setQueryType_eq_ok {graph next : TypeGraph} {name : String} :
    graph.setQueryType name = .ok next ↔
      name ∈ graph.names ∧ next = { graph with chosenQueryType := some name } := by
  rw [← defines_iff, setQueryType]
  by_cases h : graph.defines name
  · rw [if_pos h, Except.ok.injEq, and_iff_right h]
    exact eq_comm
  · simp [h]

/-- Choosing the query root fails exactly if it is not defined. -/
theorem setQueryType_eq_error {graph : TypeGraph} {name : String} {error : SchemaError} :
    graph.setQueryType name = .error error ↔
      name ∉ graph.names ∧ error = .unknownQueryType name := by
  rw [← defines_iff, setQueryType]
  by_cases h : graph.defines name
  · simp [h]
  · rw [if_neg h, Except.error.injEq, and_iff_right h]
    exact eq_comm

/-- The result of extending a type, without the event. -/
theorem result_extend (graph : TypeGraph) (extension : NamedType) :
    (graph.extend extension).result =
      match graph.get? extension.name with
      | none => .error (.unknownExtensionTarget extension.name)
      | some base =>
        match base.body.extend? extension.body with
        | some body => .ok (graph.setBody extension.name body)
        | none => .error (.extensionKindMismatch extension.name base.kind extension.kind) := by
  unfold extend
  cases graph.get? extension.name with
  | none => rfl
  | some base =>
    cases hbody : base.body.extend? extension.body <;> simp [Logged.result_bind, hbody] <;> rfl

/-- Putting the extended body in its place merges the extension. -/
theorem setBody_eq_mergedWith {graph : TypeGraph} (hdistinct : graph.names.Nodup)
    {base extension : NamedType} (hbase : base ∈ graph.types) (hname : base.name = extension.name) :
    graph.setBody extension.name (base.body.mergedWith [extension.body]) =
      graph.mergedWith [extension] := by
  unfold setBody mergedWith
  congr 1
  refine List.map_congr_left fun type htype => ?_
  by_cases h : type.name = extension.name
  · have heq : type = base := eq_of_name_eq hdistinct htype hbase (h.trans hname.symm)
    subst heq
    simp [NamedType.mergedWith, h]
  · rw [if_neg h, NamedType.mergedWith_of_forall_ne]
    simpa using Ne.symm h

/-- Extending a type succeeds exactly if a type of the same name and kind is there. -/
theorem result_extend_eq_ok {graph next : TypeGraph} (hdistinct : graph.names.Nodup)
    {extension : NamedType} :
    (graph.extend extension).result = .ok next ↔
      (∃ type ∈ graph.types, type.name = extension.name ∧ type.kind = extension.kind) ∧
        next = graph.mergedWith [extension] := by
  rw [result_extend]
  constructor
  · intro h
    cases hbase : graph.get? extension.name with
    | none => simp [hbase] at h
    | some base =>
      obtain ⟨hmem, hname⟩ := mem_of_get?_eq_some hbase
      cases hbody : base.body.extend? extension.body with
      | none => simp [hbase, hbody] at h
      | some body =>
        obtain ⟨hkind, rfl⟩ := TypeBody.extend?_eq_some.mp hbody
        simp only [hbase, hbody, Except.ok.injEq] at h
        exact ⟨⟨base, hmem, hname, hkind⟩, h ▸ setBody_eq_mergedWith hdistinct hmem hname⟩
  · intro hparts
    obtain ⟨⟨base, hmem, hname, hkind⟩, rfl⟩ := hparts
    have hbase : graph.get? extension.name = some base := hname ▸ get?_name hdistinct hmem
    have hbody := TypeBody.extend?_eq_some.mpr ⟨hkind, rfl⟩
    simp only [hbase, hbody, setBody_eq_mergedWith hdistinct hmem hname]

/-- Extending a type fails exactly if none of its name is there, or the one that is has another
kind. -/
theorem result_extend_eq_error {graph : TypeGraph} (hdistinct : graph.names.Nodup)
    {extension : NamedType} {error : SchemaError} :
    (graph.extend extension).result = .error error ↔
      ((∀ type ∈ graph.types, type.name ≠ extension.name) ∧
          error = .unknownExtensionTarget extension.name) ∨
        ∃ type ∈ graph.types, type.name = extension.name ∧ type.kind ≠ extension.kind ∧
          error = .extensionKindMismatch extension.name type.kind extension.kind := by
  rw [result_extend]
  cases hbase : graph.get? extension.name with
  | none =>
    have hnone : ∀ type ∈ graph.types, type.name ≠ extension.name := by
      simpa using List.find?_eq_none.mp hbase
    have hno : ¬ ∃ type ∈ graph.types, type.name = extension.name ∧ type.kind ≠ extension.kind ∧
        error = .extensionKindMismatch extension.name type.kind extension.kind := by
      rintro ⟨type, htype, hname, -⟩
      exact hnone type htype hname
    rw [or_iff_left hno, and_iff_right hnone, Except.error.injEq]
    exact eq_comm
  | some base =>
    obtain ⟨hmem, hname⟩ := mem_of_get?_eq_some hbase
    have hsome : ¬ ∀ type ∈ graph.types, type.name ≠ extension.name :=
      fun hnone => hnone base hmem hname
    -- the base is the only type of that name, so its kind is the one that counts
    have hunique : ∀ type ∈ graph.types, type.name = extension.name → type = base :=
      fun type htype hsame => eq_of_name_eq hdistinct htype hmem (hsame.trans hname.symm)
    rw [or_iff_right (fun h => hsome h.1)]
    cases hbody : base.body.extend? extension.body with
    | some body =>
      have hkind : base.kind = extension.kind := (TypeBody.extend?_eq_some.mp hbody).1
      simp only [hbody, reduceCtorEq, false_iff]
      rintro ⟨type, htype, hsame, hother, -⟩
      exact hother (hunique type htype hsame ▸ hkind)
    | none =>
      have hkind : base.kind ≠ extension.kind := by
        intro hkind
        rw [TypeBody.extend?_eq_some.mpr ⟨hkind, rfl⟩] at hbody
        cases hbody
      simp only [hbody, Except.error.injEq]
      constructor
      · rintro rfl
        exact ⟨base, hmem, hname, hkind, rfl⟩
      · rintro ⟨type, htype, hsame, -, rfl⟩
        rw [hunique type htype hsame]

end TypeGraph

end SdlCodegen
