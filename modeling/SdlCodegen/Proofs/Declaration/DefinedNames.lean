import SdlCodegen.Proofs.Declaration.Listing
import SdlCodegen.Proofs.Declaration.Tokens

/-!
# Names that a module defines

The items of generated code define the names behind `struct` and `enum` and the names that are
imported. They are read off the tokens of the text. For a graph of texts they are the imports, the
identifiers of the declared types in order and the names of the stubs in order, and only the
identifiers of types are checked to be different. So a name is defined twice exactly if two fields
of the query root have one name, or a type is named like an import or like a stub.
-/

namespace SdlCodegen

namespace Token

/-- What a token means for the names that are defined: whether a keyword in front of a name or the
path or list of an import has been read. -/
inductive Definer where
  | outside
  | named
  | path
  | list
  deriving DecidableEq, Repr

/-- Read a token: where that leads to, and the name that it defines. Imports have their names in
braces, and commas never matter. -/
def Definer.read (state : Definer) (token : String) : Definer × List String :=
  if token = "," then (state, [])
  else
    match state with
    | outside =>
      if token = "struct" ∨ token = "enum" then (named, [])
      else if token = "use" then (path, [])
      else (outside, [])
    | named => (outside, [token])
    | path => if token = "\x7b" then (list, []) else (path, [])
    | list => if token = "\x7d" then (outside, []) else (list, [token])

/-- The names that tokens define. -/
def definedFrom (state : Definer) : List String → List String
  | [] => []
  | token :: rest => (state.read token).2 ++ definedFrom (state.read token).1 rest

/-- The names that the items of a text define. -/
def definedNames (text : String) : List String :=
  definedFrom .outside (tokens text)

/-- Leaving out commas changes no defined name. -/
theorem definedFrom_settle (state : Definer) (tokens : List String) :
    definedFrom state (settle tokens) = definedFrom state tokens := by
  induction tokens generalizing state with
  | nil => rfl
  | cons token rest ih =>
    change definedFrom state (place token (settle rest)) = _
    unfold place
    split
    · next hcomma =>
      rw [hcomma.1, ih]
      simp [definedFrom, Definer.read]
    · rw [definedFrom, definedFrom, ih]

/-- Whether a token begins neither an item with a name nor an import. -/
def isSilent (token : String) : Bool :=
  token ∉ ["struct", "enum", "use"]

/-- Tokens that begin nothing define nothing. -/
theorem definedFrom_of_isSilent {tokens : List String} (h : ∀ token ∈ tokens, isSilent token)
    (rest : List String) : definedFrom .outside (tokens ++ rest) = definedFrom .outside rest := by
  induction tokens with
  | nil => rfl
  | cons token tokens ih =>
    rw [List.forall_mem_cons] at h
    have hread : Definer.outside.read token = (.outside, []) := by
      have hsilent := h.1
      simp only [isSilent, List.mem_cons, List.not_mem_nil, or_false, not_or,
        decide_eq_true_eq] at hsilent
      simp [Definer.read, hsilent]
    rw [List.cons_append, definedFrom, hread]
    exact ih h.2

/-- An item defines the name behind its keyword. -/
theorem definedFrom_item {front back : List String} (hfront : ∀ token ∈ front, isSilent token)
    (hback : ∀ token ∈ back, isSilent token) {keyword name : String}
    (hkeyword : keyword = "struct" ∨ keyword = "enum") (hname : name ≠ ",") (rest : List String) :
    definedFrom .outside (front ++ keyword :: name :: back ++ rest) =
      name :: definedFrom .outside rest := by
  have hread : Definer.outside.read keyword = (.named, []) := by
    rcases hkeyword with rfl | rfl <;> rfl
  have hdefined : Definer.named.read name = (.outside, [name]) := by
    simp [Definer.read, hname]
  rw [List.append_assoc, definedFrom_of_isSilent hfront, List.cons_append, List.cons_append,
    definedFrom, hread, definedFrom, hdefined, definedFrom_of_isSilent hback]
  rfl

end Token

open Token

/-- What may stand for a type begins no item. -/
theorem Identifier.isSilent_of_isTypeName {name : String} (h : isTypeName name) :
    isSilent name := by
  simp only [isTypeName, Bool.and_eq_true, decide_eq_true_eq] at h
  have hkeywords : ∀ token ∈ ["struct", "enum", "use"], token ∈ keywords := by decide
  simp only [isSilent, decide_eq_true_eq]
  exact fun hmem => h.1.2 (hkeywords name hmem)

/-- An identifier is no comma. -/
theorem Identifier.ne_comma_of_isValid {name : String} (h : isValid name) : name ≠ "," := by
  rintro rfl
  exact absurd h (by decide)

/-- The tokens of a well named type begin no item. -/
theorem TypeExpr.isSilent_tokens {type : TypeExpr} (h : type.isWellNamed) :
    ∀ token ∈ type.tokens, isSilent token := by
  induction type with
  | name ident =>
    rw [tokens, List.forall_mem_singleton]
    exact Identifier.isSilent_of_isTypeName (isWellNamed_name.mp h)
  | generic head argument ih =>
    obtain ⟨hhead, hargument⟩ := isWellNamed_generic.mp h
    rw [tokens, List.forall_mem_append, List.forall_mem_append, List.forall_mem_cons]
    exact ⟨⟨⟨Identifier.isSilent_of_isTypeName hhead, by decide⟩, ih hargument⟩, by decide⟩

/-- Comment lines begin no item. -/
theorem isSilent_of_mem_docLines {comment : Option String} {line : String}
    (h : line ∈ docLines comment) : isSilent line := by
  obtain ⟨cs, hcs, -⟩ := exists_toList_of_mem_docLines h
  simp only [isSilent, decide_eq_true_eq]
  intro hmem
  have hslash : ∀ token ∈ ["struct", "enum", "use"], token.toList.head? ≠ some '/' := by decide
  exact hslash line hmem (by rw [hcs]; rfl)

/-- The name of a field is no reserved word, and neither is a name in its type. -/
structure FieldDeclaration.Unreserved (field : FieldDeclaration) : Prop where
  ident : Identifier.isTypeName field.ident
  type : field.type.isWellNamed

/-- The tokens of a field that has no reserved word for a name begin no item. -/
theorem FieldDeclaration.isSilent_tokens {field : FieldDeclaration} (h : field.Unreserved) :
    ∀ token ∈ field.tokens, isSilent token := by
  rw [tokens]
  simp only [List.forall_mem_append, List.forall_mem_cons]
  exact ⟨⟨⟨fun _ => isSilent_of_mem_docLines, Identifier.isSilent_of_isTypeName h.ident, by decide⟩,
    TypeExpr.isSilent_tokens h.type⟩, by decide⟩

/-- The tokens of a variant that has no reserved word for a name begin no item. -/
theorem VariantDeclaration.isSilent_tokens {variant : VariantDeclaration}
    (h : Identifier.isTypeName variant.ident) : ∀ token ∈ variant.tokens, isSilent token := by
  rw [tokens]
  simp only [List.forall_mem_append, List.forall_mem_cons]
  exact ⟨fun _ => isSilent_of_mem_docLines, Identifier.isSilent_of_isTypeName h, by decide⟩

/-- The tokens of a method that has no reserved word for a name begin no item. -/
theorem isSilent_methodTokens {method : String} {result : TypeExpr}
    (hmethod : Identifier.isTypeName method) (hresult : result.isWellNamed) :
    ∀ token ∈ methodTokens method result, isSilent token := by
  have htype : (TypeExpr.generic "Result" result).isWellNamed :=
    TypeExpr.isWellNamed_generic.mpr ⟨by decide, hresult⟩
  rw [methodTokens]
  simp only [List.forall_mem_append, List.forall_mem_cons]
  refine ⟨⟨?_, TypeExpr.isSilent_tokens htype⟩, by decide⟩
  exact ⟨by decide, by decide, by decide, Identifier.isSilent_of_isTypeName hmethod, by decide⟩

/-- A block begins no item if its head and its members begin none. -/
theorem isSilent_blockTokens {head : List String} {members : List (List String)}
    (hhead : ∀ token ∈ head, isSilent token)
    (hmembers : ∀ member ∈ members, ∀ token ∈ member, isSilent token) :
    ∀ token ∈ blockTokens head members, isSilent token := by
  rw [blockTokens]
  simp only [List.forall_mem_append]
  refine ⟨⟨⟨hhead, by decide⟩, ?_⟩, by decide⟩
  intro token htoken
  obtain ⟨member, hmember, hmem⟩ := List.mem_flatten.mp htoken
  exact hmembers member hmember token hmem

namespace Declaration

/-- No name in a declaration is a reserved word. -/
def Unreserved : Declaration → Prop
  | scalar name _ => Identifier.isTypeName name
  | object name _ fields => Identifier.isTypeName name ∧ ∀ field ∈ fields, field.Unreserved
  | enum name _ variants =>
    Identifier.isTypeName name ∧ ∀ variant ∈ variants, Identifier.isTypeName variant.ident
  | query field method result _ =>
    Identifier.isTypeName (queryStruct field) ∧ Identifier.isTypeName method ∧ result.isWellNamed

/-- The name that a declaration defines. -/
def definedName : Declaration → String
  | scalar name _ | object name _ _ | enum name _ _ => name
  | query field _ _ _ => queryStruct field

/-- The tokens of a declaration define its name and nothing else. -/
theorem definedFrom_tokens {declaration : Declaration} (h : declaration.Unreserved)
    (rest : List String) :
    definedFrom .outside (declaration.tokens ++ rest) =
      declaration.definedName :: definedFrom .outside rest := by
  have hdoc : ∀ (comment : Option String), ∀ line ∈ docLines comment, isSilent line :=
    fun _ _ => isSilent_of_mem_docLines
  have hcomma : ∀ {name : String}, Identifier.isTypeName name → name ≠ "," :=
    fun hname => Identifier.ne_comma_of_isValid (Identifier.isValid_of_isTypeName hname)
  cases declaration with
  | scalar name comment =>
    have hfront : ∀ token ∈ docLines comment ++ ["pub"], isSilent token :=
      List.forall_mem_append.mpr ⟨hdoc comment, by decide⟩
    have hback : ∀ token ∈ ["(", "String", ")", ";"], isSilent token := by decide
    simpa [tokens, definedName] using definedFrom_item hfront hback (.inl rfl) (hcomma h) rest
  | object name comment fields =>
    have hfront : ∀ token ∈ docLines comment ++ (deriveTokens "SimpleObject" ++ ["pub"]),
        isSilent token :=
      List.forall_mem_append.mpr ⟨hdoc comment, by decide⟩
    have hback : ∀ token ∈ blockTokens [] (fields.map (·.tokens)), isSilent token := by
      apply isSilent_blockTokens (by simp)
      rw [List.forall_mem_map]
      exact fun field hfield => FieldDeclaration.isSilent_tokens (h.2 field hfield)
    simpa [tokens, blockTokens, definedName] using
      definedFrom_item hfront hback (.inl rfl) (hcomma h.1) rest
  | enum name comment variants =>
    have hfront : ∀ token ∈ docLines comment ++ ["pub"], isSilent token :=
      List.forall_mem_append.mpr ⟨hdoc comment, by decide⟩
    have hback : ∀ token ∈ blockTokens [] (variants.map (·.tokens)), isSilent token := by
      apply isSilent_blockTokens (by simp)
      rw [List.forall_mem_map]
      exact fun variant hvariant => VariantDeclaration.isSilent_tokens (h.2 variant hvariant)
    simpa [tokens, blockTokens, definedName] using
      definedFrom_item hfront hback (.inr rfl) (hcomma h.1) rest
  | query field method result comment =>
    obtain ⟨hname, hmethod, hresult⟩ := h
    have hfront : ∀ token ∈ deriveTokens "Default" ++ ["pub"], isSilent token := by decide
    have himpl : ∀ token ∈ ["impl", queryStruct field], isSilent token := by
      simp only [List.forall_mem_cons]
      exact ⟨by decide, Identifier.isSilent_of_isTypeName hname, by simp⟩
    have hmember : ∀ token ∈ docLines comment ++ methodTokens method result, isSilent token :=
      List.forall_mem_append.mpr ⟨hdoc comment, isSilent_methodTokens hmethod hresult⟩
    have hback : ∀ token ∈ [";", "#", "[", "Object", "]"] ++
        blockTokens ["impl", queryStruct field] [docLines comment ++ methodTokens method result],
        isSilent token := by
      rw [List.forall_mem_append]
      exact ⟨by decide, isSilent_blockTokens himpl (List.forall_mem_singleton.mpr hmember)⟩
    simpa [tokens, definedName] using definedFrom_item hfront hback (.inl rfl) (hcomma hname) rest

/-- Declarations define their names in order. -/
theorem definedFrom_flatMap_tokens {declarations : List Declaration}
    (h : ∀ declaration ∈ declarations, declaration.Unreserved) :
    definedFrom .outside (declarations.flatMap (·.tokens)) = declarations.map (·.definedName) := by
  induction declarations with
  | nil => rfl
  | cons declaration declarations ih =>
    rw [List.forall_mem_cons] at h
    rw [List.flatMap_cons, definedFrom_tokens h.1, ih h.2, List.map_cons]

end Declaration

/-- The names that are imported on request. -/
def preludeNames : List String :=
  ["Context", "Object", "Result", "SimpleObject"]

/-- The imports define their names. -/
theorem definedFrom_preludeTokens (rest : List String) :
    definedFrom .outside (preludeTokens ++ rest) = preludeNames ++ definedFrom .outside rest := rfl

/-- A text without the marks of escaping is the escaped form of nothing but itself. -/
theorem Identifier.escape_eq_iff {name target : String} (hmark : '#' ∉ target.toList)
    (hlast : target.toList.getLast? ≠ some '_') (hkeywords : target ∉ keywords)
    (hpathWords : target ∉ pathWords) : escape name = target ↔ name = target := by
  constructor
  · intro h
    rcases eq_or_of_escape_eq hmark h with hsame | ⟨-, rfl⟩
    · exact hsame
    · exact absurd (by simp) hlast
  · rintro rfl
    rw [escape, if_neg hpathWords, if_neg hkeywords]

namespace Declaration

/-- The name of a stub ends in its suffix. -/
theorem isSuffix_queryStruct (field : String) : "Query".toList <:+ (queryStruct field).toList := by
  rw [queryStruct, String.toList_append]
  exact List.suffix_append _ _

/-- Stubs of different fields have different names. -/
theorem queryStruct_injective : Function.Injective queryStruct := by
  intro first second heq
  have htexts := congrArg String.toList heq
  rw [queryStruct, queryStruct, String.toList_append, String.toList_append] at htexts
  exact String.toList_injective (List.append_cancel_right htexts)

/-- Words without the suffix of stubs are no names of stubs. -/
theorem queryStruct_not_mem (field : String) {words : List String}
    (h : ∀ word ∈ words, ¬ "Query".toList <:+ word.toList) : queryStruct field ∉ words :=
  fun hmem => h _ hmem (isSuffix_queryStruct field)

/-- The name of a stub is no keyword. -/
theorem queryStruct_not_mem_keywords (field : String) : queryStruct field ∉ Identifier.keywords :=
  queryStruct_not_mem field (by decide)

/-- The name of a stub is no other reserved word. -/
theorem queryStruct_not_mem_pathWords (field : String) : queryStruct field ∉ Identifier.pathWords :=
  queryStruct_not_mem field (by decide)

/-- A type becomes the name of a stub only if that is its name. -/
theorem escape_eq_queryStruct_iff {name field : String} (h : Sdl.isName field) :
    Identifier.escape name = queryStruct field ↔ name = queryStruct field := by
  have hstruct : Sdl.isName (queryStruct field) := Sdl.isName_append h (by decide)
  apply Identifier.escape_eq_iff
  · exact Identifier.mark_not_mem hstruct
  · simp [queryStruct]
  · exact queryStruct_not_mem_keywords field
  · exact queryStruct_not_mem_pathWords field

end Declaration

/-- A type becomes an import only if that is its name. -/
theorem escape_mem_preludeNames_iff {name : String} :
    Identifier.escape name ∈ preludeNames ↔ name ∈ preludeNames := by
  have hplain : ∀ target ∈ preludeNames, '#' ∉ target.toList ∧ target.toList.getLast? ≠ some '_' ∧
      target ∉ Identifier.keywords ∧ target ∉ Identifier.pathWords := by
    decide
  have heq : ∀ target ∈ preludeNames, Identifier.escape name = target ↔ name = target := by
    intro target htarget
    obtain ⟨hmark, hlast, hkeywords, hpathWords⟩ := hplain target htarget
    exact Identifier.escape_eq_iff hmark hlast hkeywords hpathWords
  constructor
  · intro hmem
    rwa [(heq _ hmem).mp rfl]
  · intro hmem
    rwa [(heq _ hmem).mpr rfl]

/-- The name of the stub of a field may stand for a type. -/
theorem isTypeName_queryStruct {field : String} (h : Sdl.isName field) :
    Identifier.isTypeName (Declaration.queryStruct field) := by
  have hname : Sdl.isName (Declaration.queryStruct field) := Sdl.isName_append h (by decide)
  simp [Identifier.isTypeName, Identifier.isValid_of_isName hname,
    Declaration.queryStruct_not_mem_keywords, Declaration.queryStruct_not_mem_pathWords]

/-- The identifier of a field that can be written is no reserved word. -/
theorem Field.WellNamed.isTypeName_ident {field : Field} (h : field.WellNamed) :
    Identifier.isTypeName field.ident := by
  rw [Field.ident]
  exact Identifier.isTypeName_escape (isName_fieldName h.name)

/-- The identifier of a value that can be written is no reserved word. -/
theorem EnumValue.isTypeName_ident {value : EnumValue} (h : Sdl.isName value.name) :
    Identifier.isTypeName value.ident := by
  rw [EnumValue.ident]
  exact Identifier.isTypeName_escape (isName_variantName h)

/-- The type expression of a field that can be written has no reserved word for a name. -/
theorem Field.WellNamed.isWellNamed_typeExpr {field : Field} (h : field.WellNamed) :
    field.typeExpr.isWellNamed := by
  obtain ⟨declared, hdeclared, hwell⟩ := exists_declare_eq_ok "" h
  obtain ⟨-, rfl⟩ := declare_eq_ok.mp hdeclared
  exact hwell.type

/-- The declaration of a field that can be written has no reserved word for a name. -/
theorem Field.WellNamed.unreserved_declaration {field : Field} (h : field.WellNamed) :
    field.declaration.Unreserved := by
  constructor
  · simpa only [Field.declaration] using h.isTypeName_ident
  · simpa only [Field.declaration] using h.isWellNamed_typeExpr

/-- The declaration of a type that can be written has no reserved word for a name. -/
theorem NamedType.WellNamed.unreserved_declaration {type : NamedType} (h : type.WellNamed)
    {declaration : Declaration} (hdeclaration : type.declaration? = some declaration) :
    declaration.Unreserved := by
  obtain ⟨name, description, body⟩ := type
  have hname := Identifier.isTypeName_escape h.name
  cases body with
  | scalar =>
    cases hdeclaration
    exact hname
  | object fields =>
    cases hdeclaration
    refine ⟨hname, ?_⟩
    rw [List.forall_mem_map]
    exact fun field hfield => (h.body.fields field hfield).unreserved_declaration
  | enum values =>
    cases hdeclaration
    refine ⟨hname, ?_⟩
    rw [List.forall_mem_map]
    intro value hvalue
    simpa only [EnumValue.variant] using EnumValue.isTypeName_ident (h.body.values value hvalue)
  | bare kind => cases hdeclaration

/-- The declaration of a type defines its identifier. -/
theorem NamedType.definedName_declaration? (type : NamedType) :
    type.declaration?.map (·.definedName) =
      if type.kind.isSupported then some (Identifier.escape type.name) else none := by
  obtain ⟨name, description, body⟩ := type
  cases body <;> rfl

namespace TypeGraph

/-- The fields of the query root of a well named graph can be written. -/
theorem WellNamed.queryFields {graph : TypeGraph} (h : graph.WellNamed) :
    ∀ field ∈ graph.queryFields, field.WellNamed := by
  intro field hfield
  obtain ⟨root, hroot, hmem⟩ := mem_queryFields.mp hfield
  exact (h root (mem_of_get?_eq_some hroot).1).body.fields field hmem

/-- The listing of a well named graph has no reserved word for a name. -/
theorem WellNamed.unreserved_listing {graph : TypeGraph} (h : graph.WellNamed) :
    ∀ declaration ∈ graph.listing, declaration.Unreserved := by
  rw [listing, List.forall_mem_append, List.forall_mem_map]
  constructor
  · intro declaration hdeclaration
    obtain ⟨type, htype, heq⟩ := List.mem_filterMap.mp hdeclaration
    exact (h type (List.mem_of_mem_filter htype)).unreserved_declaration heq
  · intro field hfield
    have hwell := h.queryFields field hfield
    rw [Field.stub]
    exact ⟨isTypeName_queryStruct hwell.name, hwell.isTypeName_ident, hwell.isWellNamed_typeExpr⟩

/-- The listing of a graph defines the identifiers of its declared types and the names of its
stubs. -/
theorem map_definedName_listing (graph : TypeGraph) :
    graph.listing.map (·.definedName) =
      graph.declaredTypes.map (Identifier.escape ·.name) ++
        graph.queryFields.map (Declaration.queryStruct ·.name) := by
  have hstubs : (graph.queryFields.map (·.stub)).map (·.definedName) =
      graph.queryFields.map (Declaration.queryStruct ·.name) := by
    simp [Field.stub, Declaration.definedName]
  have htypes : (graph.typesBesideRoot.filterMap (·.declaration?)).map (·.definedName) =
      graph.declaredTypes.map (Identifier.escape ·.name) := by
    rw [List.map_filterMap, declaredTypes, ← List.filterMap_eq_map, List.filterMap_filter]
    exact congrArg (graph.typesBesideRoot.filterMap ·) (funext NamedType.definedName_declaration?)
  rw [listing, List.map_append, htypes, hstubs]

/-- What is generated from a well named graph defines the imports, if they are asked for, the
identifiers of the declared types and the names of the stubs, each in order. -/
theorem WellNamed.definedNames_generate {graph : TypeGraph} (h : graph.WellNamed)
    {options : GenerateOptions} {text : String}
    (htext : (graph.generate options).result = .ok text) :
    graph.Declarable options.unsupported ∧
      definedNames text = (if options.prelude then preludeNames else []) ++
        (graph.declaredTypes.map (Identifier.escape ·.name) ++
          graph.queryFields.map (Declaration.queryStruct ·.name)) := by
  rw [h.result_generate, Fallible.map_eq_ok] at htext
  obtain ⟨declared, hdeclared, rfl⟩ := htext
  have hwell := h.meets_declarations options.unsupported
  rw [hdeclared] at hwell
  obtain ⟨hdeclarable, rfl⟩ := result_declarations_eq_ok.mp hdeclared
  refine ⟨hdeclarable, ?_⟩
  rw [definedNames, ← definedFrom_settle, settle_tokens_layoutText options.prelude hwell,
    definedFrom_settle, ← map_definedName_listing,
    ← Declaration.definedFrom_flatMap_tokens h.unreserved_listing]
  cases options.prelude with
  | true => exact definedFrom_preludeTokens _
  | false => rfl

/-- The items of a graph have different names: no field of the query root occurs twice, and no
declared type has the name of a stub or of an import. -/
structure ItemsDiffer (graph : TypeGraph) (prelude : Bool) : Prop where
  fields : (graph.queryFields.map (·.name)).Nodup
  stubs : ∀ type ∈ graph.declaredTypes, ∀ field ∈ graph.queryFields,
    type.name ≠ Declaration.queryStruct field.name
  imports : prelude → ∀ type ∈ graph.declaredTypes, type.name ∉ preludeNames

/-- Declared types and stubs become different names exactly if their own names differ. -/
theorem WellNamed.types_ne_stubs_iff {graph : TypeGraph} (h : graph.WellNamed) :
    (∀ item ∈ graph.declaredTypes.map (Identifier.escape ·.name),
        ∀ stub ∈ graph.queryFields.map (Declaration.queryStruct ·.name), item ≠ stub) ↔
      ∀ type ∈ graph.declaredTypes, ∀ field ∈ graph.queryFields,
        type.name ≠ Declaration.queryStruct field.name := by
  simp only [List.forall_mem_map]
  refine forall₂_congr fun type _ => forall₂_congr fun field hfield => not_congr ?_
  exact Declaration.escape_eq_queryStruct_iff (h.queryFields field hfield).name

/-- No item has the name of an import exactly if no declared type has. -/
theorem imports_ne_items_iff {graph : TypeGraph} :
    (∀ name ∈ preludeNames, ∀ item ∈ graph.declaredTypes.map (Identifier.escape ·.name) ++
        graph.queryFields.map (Declaration.queryStruct ·.name), name ≠ item) ↔
      ∀ type ∈ graph.declaredTypes, type.name ∉ preludeNames := by
  constructor
  · intro hapart type htype hmem
    exact hapart _ (escape_mem_preludeNames_iff.mpr hmem) _
      (List.mem_append_left _ (List.mem_map_of_mem htype)) rfl
  · rintro hapart name hname _ hitem rfl
    rcases List.mem_append.mp hitem with hdeclared | hstub
    · obtain ⟨type, htype, rfl⟩ := List.mem_map.mp hdeclared
      exact hapart type htype (escape_mem_preludeNames_iff.mp hname)
    · obtain ⟨field, -, rfl⟩ := List.mem_map.mp hstub
      exact Declaration.queryStruct_not_mem field.name (by decide) hname

/-- Where the identifiers of the declared types differ, the names of all items do exactly if nothing
is named like a stub or an import and the fields behind the stubs differ. -/
theorem WellNamed.nodup_items_iff {graph : TypeGraph} (h : graph.WellNamed) (prelude : Bool)
    (htypes : (graph.declaredTypes.map (Identifier.escape ·.name)).Nodup) :
    ((if prelude then preludeNames else []) ++
        (graph.declaredTypes.map (Identifier.escape ·.name) ++
          graph.queryFields.map (Declaration.queryStruct ·.name))).Nodup ↔
      graph.ItemsDiffer prelude := by
  have hstubs : (graph.queryFields.map (Declaration.queryStruct ·.name)).Nodup ↔
      (graph.queryFields.map (·.name)).Nodup := by
    have hmap : graph.queryFields.map (Declaration.queryStruct ·.name) =
        (graph.queryFields.map (·.name)).map Declaration.queryStruct := by
      rw [List.map_map]
      rfl
    rw [hmap, List.nodup_map_iff Declaration.queryStruct_injective]
  rw [List.nodup_append, List.nodup_append, hstubs, h.types_ne_stubs_iff]
  constructor
  · rintro ⟨-, ⟨-, hfields, hapart⟩, himports⟩
    refine ⟨hfields, hapart, fun hasked => ?_⟩
    rw [if_pos hasked] at himports
    exact imports_ne_items_iff.mp himports
  · intro hdiffer
    cases prelude with
    | false => exact ⟨.nil, ⟨htypes, hdiffer.fields, hdiffer.stubs⟩, nofun⟩
    | true =>
      have himports : preludeNames.Nodup := by decide
      exact ⟨himports, ⟨htypes, hdiffer.fields, hdiffer.stubs⟩,
        imports_ne_items_iff.mpr (hdiffer.imports rfl)⟩

/-- For every graph of texts and all options, what is generated defines the imports, if they are
asked for, the identifiers of the declared types, which all differ, and the names of the stubs. No
two of these names are equal exactly if no field of the query root occurs twice and no declared type
has the name of a stub or of an import. -/
theorem nodup_definedNames_iff {texts : List String} {graph : TypeGraph}
    (hgraph : (ofTexts texts).result = .ok graph) {options : GenerateOptions} {text : String}
    (htext : (graph.generate options).result = .ok text) :
    definedNames text = (if options.prelude then preludeNames else []) ++
        (graph.declaredTypes.map (Identifier.escape ·.name) ++
          graph.queryFields.map (Declaration.queryStruct ·.name)) ∧
      (graph.declaredTypes.map (Identifier.escape ·.name)).Nodup ∧
      ((definedNames text).Nodup ↔ graph.ItemsDiffer options.prelude) := by
  have hnamed : graph.WellNamed := wellNamed_of_ofTexts hgraph
  obtain ⟨hdeclarable, hnames⟩ := hnamed.definedNames_generate htext
  refine ⟨hnames, hdeclarable.distinctTypes, ?_⟩
  rw [hnames]
  exact hnamed.nodup_items_iff options.prelude hdeclarable.distinctTypes

/-- Of an object type and the stub of a query root that has one field the names differ from each
other and from the imports. -/
theorem nodup_definedNames_iff_stub :
    let graph : TypeGraph :=
      ⟨[⟨"Query", none, .object [⟨"a", none, .named "A"⟩]⟩, ⟨"A", none, .scalar⟩], none⟩
    (ofTexts ["type Query \x7b a: A \x7d scalar A"]).result = .ok graph ∧
      ∃ text, (graph.generate ⟨.deny, true⟩).result = .ok text ∧
        definedNames text = ["Context", "Object", "Result", "SimpleObject", "A", "aQuery"] ∧
        (definedNames text).Nodup := by
  intro graph
  have hgraph : (ofTexts ["type Query \x7b a: A \x7d scalar A"]).result = .ok graph := by
    decide +kernel
  obtain ⟨text, htext⟩ : ∃ text, (graph.generate ⟨.deny, true⟩).result = .ok text :=
    Fallible.exists_eq_ok_of_isOk (by decide +kernel)
  obtain ⟨hnames, -, hiff⟩ := nodup_definedNames_iff hgraph htext
  have hdiffer : graph.ItemsDiffer true := ⟨by decide, by decide, fun _ => by decide⟩
  refine ⟨hgraph, text, htext, ?_, hiff.mpr hdiffer⟩
  rw [hnames]
  decide +kernel

/-- A field that the query root has once more from an extension gets a second stub of the same
name. -/
theorem not_nodup_definedNames_repeated_field :
    let graph : TypeGraph :=
      ⟨[⟨"Query", none, .object [⟨"a", none, .named "Int"⟩, ⟨"a", none, .named "Int"⟩]⟩], none⟩
    (ofTexts ["type Query \x7b a: Int \x7d extend type Query \x7b a: Int \x7d"]).result =
      .ok graph ∧
      ∃ text, (graph.generate ⟨.deny, false⟩).result = .ok text ∧
        definedNames text = ["aQuery", "aQuery"] ∧ ¬ (definedNames text).Nodup := by
  intro graph
  have hgraph :
      (ofTexts ["type Query \x7b a: Int \x7d extend type Query \x7b a: Int \x7d"]).result =
      .ok graph := by
    decide +kernel
  obtain ⟨text, htext⟩ : ∃ text, (graph.generate ⟨.deny, false⟩).result = .ok text :=
    Fallible.exists_eq_ok_of_isOk (by decide +kernel)
  obtain ⟨-, hnames⟩ := (wellNamed_of_ofTexts hgraph).definedNames_generate htext
  have hrepeated : definedNames text = ["aQuery", "aQuery"] := by
    rw [hnames]
    decide +kernel
  exact ⟨hgraph, text, htext, hrepeated, by rw [hrepeated]; decide⟩

end TypeGraph

end SdlCodegen
