import SdlCodegen.Proofs.Declaration.Comments
import SdlCodegen.Proofs.Declaration.Listing
import SdlCodegen.Proofs.Text.Lines

/-!
# The comment lines of the generated code

The comment lines of a generated module are those of the descriptions that it shows, in order: of
each declared type and then of its members, and behind them of the fields of the query root.
Nothing else writes a comment line. Whether they are the lines of the descriptions depends on
carriage returns only.
-/

namespace SdlCodegen

open Layout

/-- The descriptions whose comments are part of a declaration, in order. -/
def Declaration.comments : Declaration → List (Option String)
  | scalar _ comment => [comment]
  | object _ comment fields => comment :: fields.map (·.comment)
  | enum _ comment variants => comment :: variants.map (·.comment)
  | query _ _ _ comment => [comment]

/-- The pieces for a description write its comment lines. -/
theorem comments_docPieces (comment : Option String) :
    comments (docPieces comment) = docLines comment := by
  have hdoc : ∀ line ∈ docLines comment, isDocLine line.toList := by
    intro line hline
    obtain ⟨cs, hcs, -⟩ := exists_toList_of_mem_docLines hline
    rw [hcs]
    exact isDocLine_indented 0 cs
  unfold docPieces
  generalize docLines comment = lines at hdoc
  induction lines with
  | nil => rfl
  | cons line lines ih =>
    rw [List.forall_mem_cons] at hdoc
    have hfirst : comments [.word line, .line 0] = [line] :=
      List.filterMap_cons_some (if_pos hdoc.1)
    rw [List.flatMap_cons, comments_append, hfirst, ih hdoc.2]
    rfl

/-- Pieces without slashes behind the comment of a description write no other comment lines. -/
theorem comments_docPieces_append (comment : Option String) {pieces : List Piece}
    (h : areSlashFree pieces) :
    comments (docPieces comment ++ pieces) = docLines comment := by
  rw [comments_append, comments_docPieces, comments_of_areSlashFree h, List.append_nil]

/-- A member of a block writes the comment lines of its description. -/
theorem comments_memberPieces (comment : Option String) {pieces : List Piece}
    (h : areSlashFree pieces) :
    comments (memberPieces comment pieces) = docLines comment := by
  have hcomma : areSlashFree [.word ","] := by decide
  rw [memberPieces, List.append_assoc]
  apply comments_docPieces_append
  rw [areSlashFree_append, h, hcomma]
  rfl

/-- The comment lines of pieces that are made for each of several items. -/
theorem comments_flatMap {α : Type} (items : List α) (f : α → List Piece) :
    comments (items.flatMap f) = items.flatMap fun item => comments (f item) :=
  List.filterMap_flatMap

/-- The end of a line writes no comment line. -/
theorem comments_append_line (pieces : List Piece) :
    comments (pieces ++ [.line 0]) = comments pieces := by
  rw [comments_append]
  exact List.append_nil _

/-- A block writes the comment lines of its members. -/
theorem comments_blockPieces {head : List Piece} (hhead : areSlashFree head)
    (members : List (List Piece)) :
    comments (blockPieces head members) = members.flatMap comments := by
  have hopen : comments ([.boxStart boxIndent] ++ head) = [] := by
    rw [comments_append, comments_of_areSlashFree hhead]
    rfl
  cases members using List.reverseRecOn with
  | nil =>
    have hbraces : comments [.word "\x7b", .boxEnd, .word "\x7d"] = [] :=
      comments_of_areSlashFree (by decide)
    rw [blockPieces, List.getLast?_nil]
    dsimp only
    rw [comments_append, hopen, hbraces, List.append_nil]
    rfl
  | append_singleton init last =>
    have hbrace : comments [.word "\x7b", .line 0] = [] := comments_of_areSlashFree (by decide)
    have hline : comments [.line (-boxIndent)] = [] := rfl
    have hend : comments [.boxEnd, .word "\x7d"] = [] := comments_of_areSlashFree (by decide)
    have hinit : comments (init.flatMap (· ++ [.line 0])) = init.flatMap comments := by
      rw [comments_flatMap]
      exact List.flatMap_congr fun member _ => comments_append_line member
    rw [blockPieces, List.getLast?_concat, List.dropLast_concat]
    dsimp only
    simp only [comments_append, hopen, hbrace, hline, hend, hinit, List.append_nil,
      List.nil_append, List.flatMap_append, List.flatMap_singleton]

/-- A declaration writes the comment lines of its descriptions. -/
theorem Declaration.comments_layout {declaration : Declaration} (h : declaration.WellNamed) :
    Layout.comments declaration.layout = declaration.comments.flatMap docLines := by
  cases declaration with
  | scalar name comment =>
    rw [layout, scalarPieces_eq, comments_docPieces_append comment (areSlashFree_scalarPieces h),
      comments, List.flatMap_singleton]
  | object name comment fields =>
    have hattribute : areSlashFree (attributePieces "#[derive(SimpleObject)]") := by decide
    have hkeywords : isSlashFree "pub struct ".toList := by decide
    have hfields : ∀ field ∈ fields,
        Layout.comments
          (memberPieces field.comment ([.word field.ident, .word ": "] ++ field.type.pieces)) =
          docLines field.comment :=
      fun field hfield => comments_memberPieces field.comment (h.2 field hfield).areSlashFree
    rw [layout, objectPieces, comments_append_line, comments_append,
      comments_docPieces_append comment hattribute,
      comments_blockPieces (areSlashFree_head hkeywords h.1)]
    simpa [comments, List.flatMap_map] using List.flatMap_congr hfields
  | enum name comment variants =>
    have hkeywords : isSlashFree "pub enum ".toList := by decide
    have hvariants : ∀ variant ∈ variants,
        Layout.comments (memberPieces variant.comment [.word variant.ident]) =
          docLines variant.comment :=
      fun variant hvariant =>
        comments_memberPieces variant.comment (areSlashFree_variant (h.2 variant hvariant))
    rw [layout, enumPieces, comments_append_line, comments_append, comments_docPieces,
      comments_blockPieces (areSlashFree_head hkeywords h.1)]
    simpa [comments, List.flatMap_map] using List.flatMap_congr hvariants
  | query field method result comment =>
    obtain ⟨hname, hmethod, hresult⟩ := h
    have hkeywords : isSlashFree "impl ".toList := by decide
    rw [layout, queryPieces, comments_append_line, comments_append,
      comments_of_areSlashFree (areSlashFree_stub hname),
      comments_blockPieces (areSlashFree_head hkeywords hname), List.nil_append,
      List.flatMap_singleton,
      comments_docPieces_append comment (areSlashFree_methodPieces hmethod hresult), comments,
      List.flatMap_singleton]

/-- The comment lines of well named declarations are those of their descriptions. -/
theorem commentLines_layoutText {declarations : List Declaration} (prelude : Bool)
    (h : ∀ declaration ∈ declarations, declaration.WellNamed) :
    commentLines (layoutText declarations prelude) =
      (declarations.flatMap Declaration.comments).flatMap docLines := by
  have hprelude : comments (if prelude then preludePieces else []) = [] := by
    cases prelude with
    | false => rfl
    | true => exact comments_of_areSlashFree (by decide)
  have hend : comments [.boxEnd] = [] := rfl
  have hlayouts : ∀ declaration ∈ declarations,
      comments declaration.layout = declaration.comments.flatMap docLines :=
    fun declaration hmem => declaration.comments_layout (h declaration hmem)
  have hlayout : layoutText declarations prelude = print (.boxStart 0 ::
      ((if prelude then preludePieces else []) ++ declarations.flatMap Declaration.layout ++
        [.boxEnd])) := rfl
  rw [hlayout, commentLines_print (strips_layouts prelude h), comments_append, comments_append,
    hprelude, hend, List.nil_append, List.append_nil, comments_flatMap, List.flatMap_congr hlayouts,
    List.flatMap_assoc]

/-- The descriptions that have other characters than white space. -/
def nonblank (descriptions : List (Option String)) : List String :=
  (descriptions.filterMap id).filter fun comment => !comment.toList.all Text.isBlank

/-- Only such descriptions have comment lines. -/
theorem flatMap_docLines (descriptions : List (Option String)) :
    descriptions.flatMap docLines = (nonblank descriptions).flatMap fun comment =>
      docLines (some comment) := by
  induction descriptions with
  | nil => rfl
  | cons description descriptions ih =>
    rw [List.flatMap_cons, ih]
    cases description with
    | none => rfl
    | some comment =>
      by_cases hblank : comment.toList.all Text.isBlank
      · simp [nonblank, docLines, hblank]
      · simp [nonblank, hblank]

/-- The descriptions of a type and of its members. -/
def NamedType.descriptions (type : NamedType) : List (Option String) :=
  type.description :: (type.fields.map (·.description) ++ type.values.map (·.description))

/-- The declaration of a type has the descriptions of the type. -/
theorem NamedType.comments_declaration? (type : NamedType) :
    type.declaration?.map (·.comments) =
      if type.kind.isSupported then some type.descriptions else none := by
  obtain ⟨name, description, body⟩ := type
  cases body with
  | scalar => rfl
  | object fields =>
    simp [declaration?, Declaration.comments, descriptions, NamedType.fields, NamedType.values,
      kind, TypeBody.kind, TypeBody.fields, TypeBody.values, TypeKind.isSupported,
      Field.declaration]
  | enum values =>
    simp [declaration?, Declaration.comments, descriptions, NamedType.fields, NamedType.values,
      kind, TypeBody.kind, TypeBody.fields, TypeBody.values, TypeKind.isSupported,
      EnumValue.variant]
  | bare kind => rfl

namespace TypeGraph

/-- The descriptions that the code for a graph shows: those of the declared types with their members
and those of the fields of the query root. -/
def shownDescriptions (graph : TypeGraph) : List (Option String) :=
  graph.declaredTypes.flatMap (·.descriptions) ++ graph.queryFields.map (·.description)

/-- The declarations of a graph have the descriptions that its code shows. -/
theorem comments_listing (graph : TypeGraph) :
    graph.listing.flatMap Declaration.comments = graph.shownDescriptions := by
  have htypes : (graph.typesBesideRoot.filterMap (·.declaration?)).map (·.comments) =
      graph.declaredTypes.map (·.descriptions) := by
    rw [List.map_filterMap, declaredTypes, ← List.filterMap_eq_map, List.filterMap_filter]
    exact congrArg (graph.typesBesideRoot.filterMap ·) (funext NamedType.comments_declaration?)
  have hstubs : (graph.queryFields.map (·.stub)).flatMap Declaration.comments =
      graph.queryFields.map (·.description) := by
    rw [List.flatMap_map, List.map_eq_flatMap]
    rfl
  rw [listing, List.flatMap_append, shownDescriptions, hstubs, List.flatMap_def, htypes,
    ← List.flatMap_def]

/-- The code for a well named graph shows the descriptions of its listing and has no
other comment lines. -/
theorem WellNamed.commentLines_of_generate {graph : TypeGraph} (h : graph.WellNamed)
    {options : GenerateOptions} {text : String}
    (htext : (graph.generate options).result = .ok text) :
    commentLines text = (nonblank graph.shownDescriptions).flatMap fun comment =>
      docLines (some comment) := by
  rw [h.result_generate, Fallible.map_eq_ok] at htext
  obtain ⟨declared, hdeclared, rfl⟩ := htext
  have hwell := h.meets_declarations options.unsupported
  rw [hdeclared] at hwell
  obtain ⟨-, rfl⟩ := result_declarations_eq_ok.mp hdeclared
  rw [commentLines_layoutText options.prelude hwell, comments_listing, flatMap_docLines]

/-- The comment lines of the code for a graph of texts are those of the descriptions that it shows.
Each of these has as many comment lines as it has lines in the schema language, and no comment line
has a carriage return, exactly if all carriage returns in the descriptions stand in front of a line
feed or at the end. Then the comment lines are the lines of the descriptions. -/
theorem commentLines_generate {texts : List String} {graph : TypeGraph}
    (hgraph : (ofTexts texts).result = .ok graph) {options : GenerateOptions} {text : String}
    (htext : (graph.generate options).result = .ok text) :
    let shown := nonblank graph.shownDescriptions
    commentLines text = shown.flatMap (fun comment => docLines (some comment)) ∧
      (((∀ comment ∈ shown, (docLines (some comment)).length =
          (Text.schemaLines comment.toList).length) ∧
          ∀ line ∈ commentLines text, '\r' ∉ line.toList) ↔
        ∀ comment ∈ shown, Text.HasPairedReturns comment.toList) ∧
      ((∀ comment ∈ shown, Text.HasPairedReturns comment.toList) →
        commentLines text = shown.flatMap fun comment =>
          (Text.schemaLines comment.toList).map docLine) := by
  intro shown
  have hlines : commentLines text = shown.flatMap fun comment => docLines (some comment) :=
    (wellNamed_of_ofTexts hgraph).commentLines_of_generate htext
  have hshown : ∀ comment ∈ shown, comment.toList.all Text.isBlank = false := by
    intro comment hcomment
    simpa using (List.mem_filter.mp hcomment).2
  have hcontent : (∀ comment ∈ shown, Text.HasPairedReturns comment.toList) →
      commentLines text = shown.flatMap fun comment =>
        (Text.schemaLines comment.toList).map docLine := by
    intro hpaired
    rw [hlines]
    exact List.flatMap_congr fun comment hcomment =>
      docLines_eq_map_schemaLines (hshown comment hcomment) (hpaired comment hcomment)
  refine ⟨hlines, ⟨?_, ?_⟩, hcontent⟩
  · exact fun h comment hcomment =>
      (length_docLines_eq_iff (hshown comment hcomment)).mp (h.1 comment hcomment)
  · intro hpaired
    refine ⟨fun comment hcomment => ?_, fun line hline => ?_⟩
    · exact (length_docLines_eq_iff (hshown comment hcomment)).mpr (hpaired comment hcomment)
    · rw [hcontent hpaired] at hline
      obtain ⟨comment, -, hmem⟩ := List.mem_flatMap.mp hline
      obtain ⟨source, hsource, rfl⟩ := List.mem_map.mp hmem
      exact return_not_mem_docLine hsource

/-- Two lines with a carriage return and a line feed between them are two comment lines. -/
theorem commentLines_generate_paired :
    let comment := "a\r\nb\r"
    let graph : TypeGraph := ⟨[⟨"S", some comment, .scalar⟩], none⟩
    let text := "/// a\n/// b\npub struct S(String);\n"
    (ofTexts ["\"a\\r\\nb\\r\" scalar S"]).result = .ok graph ∧
      (graph.generate ⟨.deny, false⟩).result = .ok text ∧
      (docLines (some comment)).length = (Text.schemaLines comment.toList).length ∧
      ∀ line ∈ commentLines text, '\r' ∉ line.toList := by
  intro comment graph text
  have hgraph : (ofTexts ["\"a\\r\\nb\\r\" scalar S"]).result = .ok graph := by decide +kernel
  have htext : (graph.generate ⟨.deny, false⟩).result = .ok text := by decide +kernel
  have hshown : nonblank graph.shownDescriptions = [comment] := by decide +kernel
  have hpaired : Text.HasPairedReturns comment.toList := by decide +kernel
  obtain ⟨-, hiff, -⟩ := commentLines_generate hgraph htext
  rw [hshown, List.forall_mem_singleton, List.forall_mem_singleton] at hiff
  exact ⟨hgraph, htext, hiff.mpr hpaired⟩

/-- A carriage return that stands alone is a line end in a schema, but part of one comment line. -/
theorem not_commentLines_lone_return :
    let comment := "a\rb"
    let graph : TypeGraph := ⟨[⟨"S", some comment, .scalar⟩], none⟩
    let text := "/// a\rb\npub struct S(String);\n"
    (ofTexts ["\"a\\rb\" scalar S"]).result = .ok graph ∧
      (graph.generate ⟨.deny, false⟩).result = .ok text ∧
        comment ∈ nonblank graph.shownDescriptions ∧
      (Text.schemaLines comment.toList).length = 2 ∧ commentLines text = ["/// a\rb"] := by
  intro comment graph text
  exact ⟨by decide +kernel, by decide +kernel, by decide +kernel, by decide +kernel,
    by decide +kernel⟩

end TypeGraph

end SdlCodegen
