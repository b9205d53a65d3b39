import SdlCodegen.Proofs.Declaration.Listing
import SdlCodegen.Proofs.Naming.Injective
import SdlCodegen.Proofs.Schema.History

/-!
# Which members and types become one

The identifiers of members and types are made by a conversion and by escaping, and both can make two
names one. What they make one can be said of the names alone: values that differ in the case of
letters only, fields that are the same once capitals are marked with underscores, and, in each case,
a reserved word that may not be raw next to the same word with an underscore. Whatever else two
names have in common, they stay apart.

A type that is refused for its members is told apart here from a schema that is refused for its
types: the scope of the clash says which it is.
-/

namespace SdlCodegen

/-- Two values are the same up to the case of letters, or are `self` and `self_` up to the
case of letters. -/
def EnumValue.Collide (first second : EnumValue) : Prop :=
  first.name.toLower = second.name.toLower ∨
    Identifier.IsUnderscorePair "self" first.name.toLower second.name.toLower

/-- Two fields are the same with capitals marked, or one of them is then a reserved word that may
not be raw and the other one this word with an underscore. -/
def Field.Collide (first second : Field) : Prop :=
  markCapitals first.name = markCapitals second.name ∨
    ∃ word ∈ ["crate", "self", "super", "_"],
      Identifier.IsUnderscorePair word (markCapitals first.name) (markCapitals second.name)

/-- A name becomes a variant name that is a given one exactly if it is a name for it up to the
case of letters. -/
theorem variantName_eq_iff_toLower {name small variant : String} (hname : Sdl.isName name)
    (hsmall : Sdl.isName small) (hlower : small.toLower = small)
    (hvariant : variantName small = variant) :
    variantName name = variant ↔ name.toLower = small := by
  rw [← hvariant, variantName_eq_iff hname hsmall, hlower]

/-- Of the reserved words that may not be raw, only one is the name of a variant. -/
theorem eq_of_variantName_mem_pathWords {name : String} (hname : Sdl.isName name)
    (h : variantName name ∈ Identifier.pathWords) : variantName name = "Self" := by
  -- written on in snake case, a variant name has an underscore in front and something behind it
  have hwords : ∀ word ∈ Identifier.pathWords, word ≠ "Self" →
      (markCapitals word).toList.head? ≠ some '_' ∨ (markCapitals word).toList.tail = [] := by
    decide +kernel
  by_contra hother
  have hmarked := congrArg String.toList (markCapitals_variantName hname)
  rw [String.toList_append, String.toLower, String.toList_map] at hmarked
  rcases hwords _ h hother with hhead | htail
  · rw [hmarked] at hhead
    exact hhead rfl
  · rw [hmarked] at htail
    have hempty : name.toList = [] := by simpa using htail
    rw [Sdl.isName, hempty] at hname
    cases hname

/-- Two values that are names become one variant exactly if they collide. -/
theorem EnumValue.ident_eq_iff {first second : EnumValue} (hfirst : Sdl.isName first.name)
    (hsecond : Sdl.isName second.name) :
    first.declare.ident = second.declare.ident ↔ first.Collide second := by
  have hself :
      ∀ {name : String}, Sdl.isName name → (variantName name = "Self" ↔ name.toLower = "self") :=
    fun hname =>
      variantName_eq_iff_toLower hname (by decide) (by decide +kernel) (by decide +kernel)
  have hsuffixed : ∀ {name : String}, Sdl.isName name →
      (variantName name = "Self" ++ "_" ↔ name.toLower = "self" ++ "_") :=
    fun hname =>
      variantName_eq_iff_toLower hname (by decide) (by decide +kernel) (by decide +kernel)
  have hpair : (∃ word ∈ Identifier.pathWords,
      Identifier.IsUnderscorePair word (variantName first.name) (variantName second.name)) ↔
        Identifier.IsUnderscorePair "self" first.name.toLower second.name.toLower := by
    rw [Identifier.IsUnderscorePair, ← hself hfirst, ← hself hsecond, ← hsuffixed hfirst,
      ← hsuffixed hsecond]
    constructor
    · rintro ⟨word, hword, ⟨hone, hother⟩ | ⟨hone, hother⟩⟩
      · have hroot := eq_of_variantName_mem_pathWords hfirst (hone ▸ hword)
        exact .inl ⟨hroot, by rw [hother, ← hone, hroot]⟩
      · have hroot := eq_of_variantName_mem_pathWords hsecond (hother ▸ hword)
        exact .inr ⟨by rw [hone, ← hother, hroot], hroot⟩
    · intro h
      exact ⟨"Self", by decide, h⟩
  rw [declare, declare,
    Identifier.escape_eq_escape_iff (isName_variantName hfirst) (isName_variantName hsecond),
    variantName_eq_iff hfirst hsecond, hpair, Collide]

/-- Two fields that are named become one field exactly if they collide. -/
theorem Field.ident_eq_iff {first second : Field} (hfirst : Sdl.isName first.name)
    (hsecond : Sdl.isName second.name) : first.ident = second.ident ↔ first.Collide second := by
  -- the remaining word has a capital, and no capitals are left where they are marked
  have hcapital : ∀ name : String, markCapitals name ≠ "Self" := by
    intro name h
    have hmem : 'S' ∈ (markCapitals name).toList := by
      rw [h]
      decide
    exact not_isUpper_of_mem_markCapitals hmem rfl
  have hpair : (∃ word ∈ Identifier.pathWords,
      Identifier.IsUnderscorePair word (markCapitals first.name) (markCapitals second.name)) ↔
        ∃ word ∈ ["crate", "self", "super", "_"],
          Identifier.IsUnderscorePair word (markCapitals first.name)
            (markCapitals second.name) := by
    simp [Identifier.pathWords, Identifier.IsUnderscorePair, hcapital]
  rw [ident, ident,
    Identifier.escape_eq_escape_iff (isName_fieldName hfirst) (isName_fieldName hsecond),
    fieldName_eq_markCapitals, fieldName_eq_markCapitals, hpair, Collide]

/-- Different names have different identifiers unless one is a reserved word that may not be raw and
another one is this word with an underscore. -/
theorem haveClash_escape_iff {names : List String} (hdistinct : names.Nodup)
    (hnames : ∀ name ∈ names, Sdl.isName name) :
    HaveClash (names.map Identifier.escape) ↔
      ∃ word ∈ Identifier.pathWords, word ∈ names ∧ word ++ "_" ∈ names := by
  rw [← not_iff_not, not_haveClash]
  constructor
  · rintro hidents ⟨word, hword, hmem, hsuffixed⟩
    have hsame : Identifier.escape word = Identifier.escape (word ++ "_") :=
      (Identifier.escape_eq_escape_iff (hnames _ hmem) (hnames _ hsuffixed)).mpr
        (.inr ⟨word, hword, .inl ⟨rfl, rfl⟩⟩)
    have heq := List.inj_on_of_nodup_map hidents hmem hsuffixed hsame
    simpa using congrArg String.length heq
  · intro hnone
    refine hdistinct.map_on fun first hfirst second hsecond hsame => ?_
    rcases (Identifier.escape_eq_escape_iff (hnames _ hfirst) (hnames _ hsecond)).mp hsame with
      heq | ⟨word, hword, ⟨rfl, rfl⟩ | ⟨rfl, rfl⟩⟩
    · exact heq
    · exact absurd ⟨_, hword, hfirst, hsecond⟩ hnone
    · exact absurd ⟨_, hword, hsecond, hfirst⟩ hnone

/-- The check for clashes fails in its own scope only. -/
theorem eq_of_ensureUnique {scope other : Scope} {names : List (String × String)} {clash : Clash}
    (h : ensureUnique scope names = .error (.duplicateIdentifier other clash)) : other = scope := by
  unfold ensureUnique at h
  split at h
  · cases h
    rfl
  · cases h

/-- A field by itself is not refused for a clash. -/
theorem Field.declare_ne_duplicateIdentifier {owner : String} {field : Field} {scope : Scope}
    {clash : Clash} :
    field.declare owner ≠ .error (.duplicateIdentifier scope clash) := by
  unfold declare
  split <;> simp

namespace NamedType

/-- A type that is classified is refused as its declaration is. -/
theorem result_classified_eq_error {type : NamedType} {result : Except GenerateError Declaration}
    {error : GenerateError} :
    (declare.classified type result).result = .error error ↔ result = .error error := by
  rw [result_classified, Fallible.map_eq_error]

/-- A clash in a type by itself is one of its own members. -/
theorem eq_of_result_declare {action : UnsupportedAction} {type : NamedType} {scope : Scope}
    {clash : Clash} (h : (type.declare action).result = .error (.duplicateIdentifier scope clash)) :
    scope = .type type.name := by
  rw [declare] at h
  cases hbody : type.body with
  | bare kind =>
    rw [hbody] at h
    cases action <;> cases h
  | scalar =>
    rw [hbody] at h
    cases result_classified_eq_error.mp h
  | object fields =>
    rw [hbody] at h
    replace h := result_classified_eq_error.mp h
    rw [declareObject, Fallible.bind_eq_error] at h
    rcases h with hfields | ⟨_, -, hunique⟩
    · obtain ⟨field, -, hfield⟩ := Fallible.exists_mem_of_mapM_eq_error hfields
      exact absurd hfield Field.declare_ne_duplicateIdentifier
    · exact eq_of_ensureUnique (Fallible.bind_pure_eq_error.mp hunique)
  | enum values =>
    rw [hbody] at h
    replace h := result_classified_eq_error.mp h
    dsimp only [declareEnum] at h
    exact eq_of_ensureUnique (Fallible.bind_pure_eq_error.mp h)

/-- Whether a type has a clash does not depend on where it is looked for. -/
theorem exists_scope_result_declare {action : UnsupportedAction} {type : NamedType} :
    (∃ scope clash, (type.declare action).result = .error (.duplicateIdentifier scope clash)) ↔
      ∃ clash, (type.declare action).result =
        .error (.duplicateIdentifier (.type type.name) clash) := by
  constructor
  · rintro ⟨scope, clash, hrefused⟩
    exact ⟨clash, eq_of_result_declare hrefused ▸ hrefused⟩
  · rintro ⟨clash, hrefused⟩
    exact ⟨_, clash, hrefused⟩

/-- An object type whose fields resolve is refused for a clash exactly if two of them have
one identifier. -/
theorem exists_result_declare_object {type : NamedType} {fields : List Field}
    (hbody : type.body = .object fields)
    (hresolvable : ∀ field ∈ fields, field.type.isDoubledNonNull = false)
    (action : UnsupportedAction) :
    (∃ scope clash, (type.declare action).result = .error (.duplicateIdentifier scope clash)) ↔
      HaveClash (fields.map (·.ident)) := by
  have hdeclared : fields.mapM (·.declare type.name) = .ok (fields.map (·.declaration)) :=
    (Fallible.mapM_eq_ok_map fun _ _ => Field.declare_eq_ok).mpr ⟨hresolvable, rfl⟩
  have hidents : (fields.map (·.declaration)).map (·.ident) = fields.map (·.ident) := by
    simp [Field.declaration]
  rw [exists_scope_result_declare, declare, hbody]
  simp only [result_classified_eq_error, declareObject, hdeclared]
  change (∃ clash, (ensureUnique _ _ >>= fun _ => pure _) = _) ↔ _
  simp only [Fallible.bind_pure_eq_error]
  rw [exists_ensureUnique_eq_error, List.map_snd_zip (by simp), hidents]

/-- An enum is refused for a clash exactly if two of its values have one identifier. -/
theorem exists_result_declare_enum {type : NamedType} {values : List EnumValue}
    (hbody : type.body = .enum values) (action : UnsupportedAction) :
    (∃ scope clash, (type.declare action).result = .error (.duplicateIdentifier scope clash)) ↔
      HaveClash (values.map (·.declare.ident)) := by
  have hidents : (values.map (·.declare)).map (·.ident) = values.map (·.declare.ident) := by
    simp
  rw [exists_scope_result_declare, declare, hbody]
  simp only [result_classified_eq_error, declareEnum, Fallible.bind_pure_eq_error]
  rw [exists_ensureUnique_eq_error, List.map_snd_zip (by simp), hidents]

/-- An enum of names is refused because of its values exactly if two positions hold values that are
the same up to the case of letters, or that are `self` and `self_` up to the case of letters. No
other two values, in this enum or in any, become one variant. -/
theorem declare_enum_refused_iff {type : NamedType} {values : List EnumValue}
    (hbody : type.body = .enum values) (hnames : ∀ value ∈ values, Sdl.isName value.name)
    (action : UnsupportedAction) :
    ((∃ scope clash, (type.declare action).result = .error (.duplicateIdentifier scope clash)) ↔
      HavePair EnumValue.Collide values) ∧
    ∀ first second : EnumValue, Sdl.isName first.name → Sdl.isName second.name →
      (first.declare.ident = second.declare.ident ↔ first.Collide second) := by
  refine ⟨?_, fun _ _ hfirst hsecond => EnumValue.ident_eq_iff hfirst hsecond⟩
  rw [exists_result_declare_enum hbody, haveClash_map]
  exact havePair_congr fun first hfirst second hsecond =>
    EnumValue.ident_eq_iff (hnames first hfirst) (hnames second hsecond)

/-- The one pair of values that collide though they do not have the same letters. -/
theorem declare_enum_refused_iff_self :
    let values : List EnumValue := [⟨"SELF_", none⟩, ⟨"_A1", none⟩, ⟨"sElf", none⟩]
    HavePair EnumValue.Collide values ∧
      ∃ scope clash, (NamedType.declare .deny ⟨"E", none, .enum values⟩).result =
        .error (.duplicateIdentifier scope clash) := by
  intro values
  have hpair : HavePair EnumValue.Collide values :=
    ⟨0, 2, _, _, by decide, rfl, rfl, .inr (.inr ⟨by decide +kernel, by decide +kernel⟩)⟩
  have hnames : ∀ value ∈ values, Sdl.isName value.name := by decide
  exact ⟨hpair, (declare_enum_refused_iff rfl hnames .deny).1.mpr hpair⟩

end NamedType

namespace TypeGraph

/-- The types one by one are not refused for a clash between types. -/
theorem result_declareTypes_ne_schemaTypes {graph : TypeGraph} {action : UnsupportedAction}
    {clash : Clash} :
    (graph.declareTypes action).result ≠ .error (.duplicateIdentifier .schemaTypes clash) := by
  intro h
  rw [result_declareTypes, Fallible.map_eq_error] at h
  obtain ⟨type, -, htype⟩ := Fallible.exists_mem_of_mapM_eq_error h
  rw [NamedType.declareNamed, Logged.result_bind] at htype
  cases NamedType.eq_of_result_declare (Fallible.bind_pure_eq_error.mp htype)

/-- Stubs are not refused for a clash. -/
theorem result_declareQueries_ne_duplicateIdentifier {graph : TypeGraph} {scope : Scope}
    {clash : Clash} :
    graph.declareQueries.result ≠ .error (.duplicateIdentifier scope clash) := by
  intro h
  rw [declareQueries] at h
  cases hroot : graph.queryRoot? with
  | none =>
    rw [hroot] at h
    cases h
  | some root =>
    rw [hroot] at h
    obtain ⟨field, -, hfield⟩ := Fallible.exists_mem_of_mapM_eq_error h
    exact Field.declare_ne_duplicateIdentifier (Fallible.bind_pure_eq_error.mp hfield)

/-- A schema is refused for its types exactly if each of them is declared or left out and two of
those that are declared have one identifier. -/
theorem exists_result_declarations_eq_error {graph : TypeGraph} {action : UnsupportedAction} :
    (∃ clash, (graph.declarations action).result =
      .error (.duplicateIdentifier .schemaTypes clash)) ↔
      ∃ declared, (graph.declareTypes action).result = .ok declared ∧
        HaveClash ((declared.map (·.1)).map Identifier.escape) := by
  have hidents : ∀ declared : List (String × Declaration),
      (declared.map fun entry => (entry.1, Identifier.escape entry.1)).map (·.2) =
        (declared.map (·.1)).map Identifier.escape := by
    simp
  rw [result_declarations]
  simp only [Fallible.bind_eq_error]
  constructor
  · rintro ⟨clash, htypes | ⟨declared, hdeclared, hunique | ⟨_, -, hqueries⟩⟩⟩
    · exact absurd htypes result_declareTypes_ne_schemaTypes
    · exact ⟨declared, hdeclared,
        hidents declared ▸ exists_ensureUnique_eq_error.mp ⟨clash, hunique⟩⟩
    · exact absurd (Fallible.map_eq_error.mp hqueries) result_declareQueries_ne_duplicateIdentifier
  · rintro ⟨declared, hdeclared, hclash⟩
    rw [← hidents] at hclash
    obtain ⟨clash, hunique⟩ := exists_ensureUnique_eq_error.mpr hclash
    exact ⟨clash, .inr ⟨declared, hdeclared, .inl hunique⟩⟩

/-- Declared types of texts have different names, and all of them are names. -/
theorem names_of_declareTypes {texts : List String} {parsed graph : TypeGraph}
    {action : UnsupportedAction} {declared : List (String × Declaration)}
    (h : (ofTexts texts).result = .ok parsed) (htypes : graph.types = parsed.types)
    (hdeclared : (graph.declareTypes action).result = .ok declared) :
    (declared.map (·.1)).Nodup ∧ ∀ name ∈ declared.map (·.1), Sdl.isName name := by
  obtain ⟨-, rfl⟩ := result_declareTypes_eq_ok.mp hdeclared
  rw [map_fst_declarations]
  have hsublist : graph.declaredTypes.Sublist parsed.types :=
    htypes ▸ List.filter_sublist.trans List.filter_sublist
  refine ⟨(nodup_names_of_ofTexts h).sublist (hsublist.map _), List.forall_mem_map.mpr ?_⟩
  exact fun type htype => (wellNamed_of_ofTexts h type (hsublist.subset htype)).name

end TypeGraph

/-- Fields without underscores in their names collide only if they have one name. -/
theorem Field.name_eq_of_collide {first second : Field} (hfirst : '_' ∉ first.name.toList)
    (hsecond : '_' ∉ second.name.toList) (h : first.Collide second) : first.name = second.name := by
  rcases h with hsame | ⟨word, -, ⟨-, hsuffixed⟩ | ⟨hsuffixed, -⟩⟩
  · exact eq_of_markCapitals_eq hfirst hsecond hsame
  · exact absurd (mem_of_markCapitals_eq hsuffixed) hsecond
  · exact absurd (mem_of_markCapitals_eq hsuffixed) hfirst

/-- Fields with different names without underscores have different identifiers. -/
theorem Field.nodup_idents {fields : List Field} (hdistinct : (fields.map (·.name)).Nodup)
    (hnames : ∀ field ∈ fields, Sdl.isName field.name)
    (hplain : ∀ field ∈ fields, '_' ∉ field.name.toList) :
    (fields.map (·.ident)).Nodup := by
  refine (List.Nodup.of_map _ hdistinct).map_on fun first hfirst second hsecond hsame => ?_
  have hcollide := (ident_eq_iff (hnames first hfirst) (hnames second hsecond)).mp hsame
  have hname := name_eq_of_collide (hplain first hfirst) (hplain second hsecond) hcollide
  exact List.inj_on_of_nodup_map hdistinct hfirst hsecond hname

/-- An object type whose fields are named and resolve is refused because of them exactly if two
positions hold fields that are the same with capitals marked, or that are then a word that may
not be raw and this word with an underscore; so never for different names without underscores.
The types of texts, whatever the query root, are refused exactly if each of them passes by
itself and two of those that are declared are named like a word that may not be raw and this
word with an underscore. -/
theorem fields_and_types_refused_iff :
    (∀ (type : NamedType) (fields : List Field) (action : UnsupportedAction),
      type.body = .object fields →
      (∀ field ∈ fields, Sdl.isName field.name ∧
        ∃ expression, field.type.resolve = .ok expression) →
      ((∃ scope clash, (type.declare action).result = .error (.duplicateIdentifier scope clash)) ↔
        HavePair Field.Collide fields) ∧
      ((fields.map (·.name)).Nodup → (∀ field ∈ fields, '_' ∉ field.name.toList) →
        ∃ declared, (type.declare action).result = .ok (some declared))) ∧
    ∀ (texts : List String) (parsed graph : TypeGraph) (action : UnsupportedAction),
      (TypeGraph.ofTexts texts).result = .ok parsed → graph.types = parsed.types →
      ((∃ clash, (graph.declarations action).result =
        .error (.duplicateIdentifier .schemaTypes clash)) ↔
        ∃ declared, (graph.declareTypes action).result = .ok declared ∧
          ∃ word ∈ ["crate", "self", "super", "Self", "_"],
            word ∈ declared.map (·.1) ∧ word ++ "_" ∈ declared.map (·.1)) := by
  constructor
  · intro type fields action hbody hfields
    have hresolvable : ∀ field ∈ fields, field.type.isDoubledNonNull = false :=
      fun field hfield => TypeRef.isDoubledNonNull_eq_false_iff.mpr (hfields field hfield).2
    constructor
    · rw [NamedType.exists_result_declare_object hbody hresolvable, haveClash_map]
      exact havePair_congr fun first hfirst second hsecond =>
        Field.ident_eq_iff (hfields first hfirst).1 (hfields second hsecond).1
    · intro hdistinct hplain
      have hidents :=
        Field.nodup_idents hdistinct (fun field hfield => (hfields field hfield).1) hplain
      refine ⟨.object (Identifier.escape type.name) type.description (fields.map (·.declaration)),
        ?_⟩
      rw [NamedType.declare, hbody]
      exact NamedType.result_classified_eq_ok.mpr
        ⟨_, NamedType.declareObject_eq_ok.mpr ⟨hresolvable, hidents, rfl⟩, rfl⟩
  · intro texts parsed graph action hparsed htypes
    rw [TypeGraph.exists_result_declarations_eq_error]
    refine exists_congr fun declared => and_congr_right fun hdeclared => ?_
    obtain ⟨hdistinct, hnames⟩ := TypeGraph.names_of_declareTypes hparsed htypes hdeclared
    exact haveClash_escape_iff hdistinct hnames

/-- A field of one underscore collides with a field of two; capitals keep two others apart. Two
types are named like a word that may not be raw, once with an underscore. -/
theorem fields_and_types_refused_iff_reserved :
    let reserved : List Field :=
      [⟨"a", none, .named "Int"⟩, ⟨"_", none, .named "Int"⟩, ⟨"__", none, .named "Int"⟩]
    let plain : List Field :=
      [⟨"fooBar", none, .named "Int"⟩, ⟨"foobar", none, .list (.named "Int")⟩]
    let texts := ["scalar Self_ scalar Self"]
    let graph : TypeGraph := ⟨[⟨"Self_", none, .scalar⟩, ⟨"Self", none, .scalar⟩], none⟩
    (∃ scope clash, (NamedType.declare .deny ⟨"T", none, .object reserved⟩).result =
      .error (.duplicateIdentifier scope clash)) ∧
    (∃ declared, (NamedType.declare .deny ⟨"T", none, .object plain⟩).result =
      .ok (some declared)) ∧
    (TypeGraph.ofTexts texts).result = .ok graph ∧
    ∃ clash, (graph.declarations .deny).result =
      .error (.duplicateIdentifier .schemaTypes clash) := by
  intro reserved plain texts graph
  have hreserved : ∀ field ∈ reserved,
      Sdl.isName field.name ∧ ∃ expression, field.type.resolve = .ok expression := by
    simp only [reserved, List.forall_mem_cons, List.not_mem_nil, false_imp_iff, implies_true,
      and_true]
    exact ⟨⟨by decide, _, rfl⟩, ⟨by decide, _, rfl⟩, by decide, _, rfl⟩
  have hplain : ∀ field ∈ plain,
      Sdl.isName field.name ∧ ∃ expression, field.type.resolve = .ok expression := by
    simp only [plain, List.forall_mem_cons, List.not_mem_nil, false_imp_iff, implies_true, and_true]
    exact ⟨⟨by decide, _, rfl⟩, by decide, _, rfl⟩
  have hpair : HavePair Field.Collide reserved :=
    ⟨1, 2, _, _, by decide, rfl, rfl,
      .inr ⟨"_", by decide, .inl ⟨by decide +kernel, by decide +kernel⟩⟩⟩
  have hparsed : (TypeGraph.ofTexts texts).result = .ok graph := by
    decide +kernel
  refine ⟨?_, ?_, hparsed, ?_⟩
  · exact (fields_and_types_refused_iff.1 _ reserved .deny rfl hreserved).1.mpr hpair
  · exact (fields_and_types_refused_iff.1 _ plain .deny rfl hplain).2 (by decide) (by decide)
  · exact (fields_and_types_refused_iff.2 texts graph graph .deny hparsed rfl).mpr
      ⟨_, rfl, "Self", by decide, by decide +kernel, by decide +kernel⟩

end SdlCodegen
