import SdlCodegen.Proofs.DocComment
import SdlCodegen.Proofs.Generation
import SdlCodegen.Proofs.Layout.Comments

/-!
# Declarations without comments

The layout of a well named declaration differs from that of the same declaration without comments by
comment lines only, and these stand where a line begins that is indented as its box: in front of the
declaration, of a member or of the method of a stub.
-/

namespace SdlCodegen

open Layout

/-- The field without its comment. -/
def FieldDeclaration.withoutComment (field : FieldDeclaration) : FieldDeclaration :=
  { field with comment := none }

/-- The variant without its comment. -/
def VariantDeclaration.withoutComment (variant : VariantDeclaration) : VariantDeclaration :=
  { variant with comment := none }

/-- The declaration without its comments. -/
def Declaration.withoutComments : Declaration → Declaration
  | scalar name _ => scalar name none
  | object name _ fields => object name none (fields.map (·.withoutComment))
  | enum name _ variants => enum name none (variants.map (·.withoutComment))
  | query field method result _ => query field method result none

/-- An identifier has neither slashes nor line feeds. -/
theorem isSlashFree_of_isValid {name : String} (h : Identifier.isValid name) :
    isSlashFree name.toList := by
  rw [isSlashFree, List.all_eq_true]
  intro c hc
  rcases Identifier.isContinue_of_isValid h hc with rfl | hcontinue
  · rfl
  · simp only [Bool.and_eq_true, bne_iff_ne]
    constructor
    · intro heq
      subst heq
      exact absurd hcontinue (by decide)
    · intro heq
      subst heq
      exact absurd hcontinue (by decide)

/-- The layout of a type has no slashes. -/
theorem TypeExpr.areSlashFree_pieces {type : TypeExpr} (h : type.isWellNamed) :
    areSlashFree type.pieces := by
  induction type with
  | name ident =>
    have hident := isSlashFree_of_isValid (Identifier.isValid_of_isTypeName (isWellNamed_name.mp h))
    simpa [pieces, areSlashFree, Piece.isSlashFree] using hident
  | generic head argument ih =>
    obtain ⟨hhead, hargument⟩ := isWellNamed_generic.mp h
    have hident := isSlashFree_of_isValid (Identifier.isValid_of_isTypeName hhead)
    simp only [pieces, areSlashFree_append, ih hargument]
    simp only [areSlashFree, List.all_cons, Piece.isSlashFree, hident]
    decide

/-- Comment lines may be left out where a line begins. -/
theorem strips_docPieces (comment : Option String) : Strips true (docPieces comment) [] true := by
  have hdoc : ∀ line ∈ docLines comment,
      ∃ cs, line.toList = '/' :: '/' :: '/' :: cs ∧ '\n' ∉ cs :=
    fun line hline => exists_toList_of_mem_docLines hline
  unfold docPieces
  generalize docLines comment = lines at hdoc
  induction lines with
  | nil => exact .nil true
  | cons line lines ih =>
    rw [List.forall_mem_cons] at hdoc
    obtain ⟨⟨cs, hline, hcs⟩, hrest⟩ := hdoc
    exact .doc hline hcs (ih hrest)

/-- A member of a block may be printed without its comment. -/
theorem strips_memberPieces (comment : Option String) {pieces : List Piece}
    (h : areSlashFree pieces) :
    ∃ last, Strips true (memberPieces comment pieces) (memberPieces none pieces) last := by
  have hmember : areSlashFree (pieces ++ [.word ","]) := by
    rw [areSlashFree_append, h]
    decide
  have hall := (strips_docPieces comment).append (.refl true hmember)
  exact ⟨_, by simpa [memberPieces, docPieces, docLines] using hall⟩

/-- Members on lines of their own may be printed without their comments. -/
theorem strips_members {α : Type} {items : List α} {f g : α → List Piece}
    (hitems : ∀ item ∈ items, ∃ last, Strips true (f item) (g item) last) :
    Strips true ((items.map f).flatMap (· ++ [.line 0])) ((items.map g).flatMap (· ++ [.line 0]))
      true := by
  induction items with
  | nil => exact .nil true
  | cons item items ih =>
    rw [List.forall_mem_cons] at hitems
    obtain ⟨⟨last, hitem⟩, hrest⟩ := hitems
    have hline : Strips last [.line 0] [.line 0] true := .refl last rfl
    simpa using (hitem.append hline).append (ih hrest)

/-- A block may be printed without the comments of its members. -/
theorem strips_blockPieces {α : Type} {head : List Piece} (hhead : areSlashFree head)
    {items : List α} {f g : α → List Piece}
    (hitems : ∀ item ∈ items, ∃ last, Strips true (f item) (g item) last) (fresh : Bool) :
    Strips fresh (blockPieces head (items.map f)) (blockPieces head (items.map g)) false := by
  have hblock : areSlashFree ([.boxStart boxIndent] ++ head ++ [.word "\x7b"]) := by
    rw [areSlashFree_append, areSlashFree_append, hhead]
    decide
  cases items using List.reverseRecOn with
  | nil =>
    have hend : ∀ fresh, Strips fresh [.boxEnd, .word "\x7d"] [.boxEnd, .word "\x7d"] false :=
      fun fresh => .refl fresh (by decide)
    simpa [blockPieces] using (Strips.refl fresh hblock).append (hend _)
  | append_singleton init item =>
    have hopen : ∀ fresh, Strips fresh [.line 0] [.line 0] true := fun fresh => .refl fresh rfl
    have hend : ∀ fresh, Strips fresh [.line (-boxIndent), .boxEnd, .word "\x7d"]
        [.line (-boxIndent), .boxEnd, .word "\x7d"] false :=
      fun fresh => .refl fresh (by decide)
    have hinit := strips_members fun other hother => hitems other (List.mem_append_left _ hother)
    obtain ⟨last, hitem⟩ := hitems item (by simp)
    have hall := ((((Strips.refl fresh hblock).append (hopen _)).append hinit).append hitem).append
      (hend last)
    simpa [blockPieces] using hall

/-- The head of an item has no slashes if its name is an identifier. -/
theorem areSlashFree_head {keywords name : String} (hkeywords : isSlashFree keywords.toList)
    (hname : Identifier.isValid name) : areSlashFree [.word keywords, .word name, .word " "] := by
  simp only [areSlashFree, List.all_cons, Piece.isSlashFree, hkeywords,
    isSlashFree_of_isValid hname]
  decide

/-- The layout of a method has no slashes. -/
theorem areSlashFree_methodPieces {method : String} {result : TypeExpr}
    (hmethod : Identifier.isValid method) (hresult : result.isWellNamed) :
    areSlashFree (methodPieces method result) := by
  have htype : (TypeExpr.generic "Result" result).isWellNamed :=
    TypeExpr.isWellNamed_generic.mpr ⟨by decide, hresult⟩
  simp only [methodPieces, areSlashFree_append, TypeExpr.areSlashFree_pieces htype]
  simp only [areSlashFree, List.all_cons, Piece.isSlashFree, isSlashFree_of_isValid hmethod]
  decide

/-- A variant has no slashes. -/
theorem areSlashFree_variant {ident : String} (h : Identifier.isValid ident) :
    areSlashFree [.word ident] := by
  simp [areSlashFree, Piece.isSlashFree, isSlashFree_of_isValid h]

/-- A field has no slashes. -/
theorem FieldDeclaration.WellNamed.areSlashFree {field : FieldDeclaration} (h : field.WellNamed) :
    Layout.areSlashFree ([.word field.ident, .word ": "] ++ field.type.pieces) := by
  rw [areSlashFree_append, TypeExpr.areSlashFree_pieces h.type]
  simp only [Layout.areSlashFree, List.all_cons, Piece.isSlashFree, isSlashFree_of_isValid h.ident]
  decide

/-- The comment of a scalar stands in front of its layout without a comment. -/
theorem scalarPieces_eq (name : String) (comment : Option String) :
    scalarPieces name comment = docPieces comment ++ scalarPieces name none := by
  simp [scalarPieces, docPieces, docLines]

/-- The layout of a scalar without a comment has no slashes. -/
theorem areSlashFree_scalarPieces {name : String} (h : Identifier.isValid name) :
    areSlashFree (scalarPieces name none) := by
  simp only [scalarPieces, areSlashFree_append]
  simp only [areSlashFree, List.all_cons, Piece.isSlashFree, isSlashFree_of_isValid h]
  decide

/-- What stands in front of the methods of a stub has no slashes. -/
theorem areSlashFree_stub {name : String} (h : Identifier.isValid name) :
    areSlashFree (attributePieces "#[derive(Default)]" ++
      [.boxStart boxIndent, .word "pub struct ", .word name, .word ";", .boxEnd, .line 0] ++
      attributePieces "#[Object]") := by
  rw [areSlashFree_append, areSlashFree_append]
  simp only [areSlashFree, List.all_cons, Piece.isSlashFree, isSlashFree_of_isValid h]
  decide

/-- A declaration may be printed without its comments. -/
theorem Declaration.strips_layout {declaration : Declaration} (h : declaration.WellNamed) :
    Strips true declaration.layout declaration.withoutComments.layout true := by
  have hline : ∀ fresh, Strips fresh [.line 0] [.line 0] true := fun fresh => .refl fresh rfl
  cases declaration with
  | scalar name comment =>
    rw [layout, scalarPieces_eq]
    exact (strips_docPieces comment).append (.refl true (areSlashFree_scalarPieces h))
  | object name comment fields =>
    have hattribute : areSlashFree (attributePieces "#[derive(SimpleObject)]") := by decide
    have hfields : ∀ field ∈ fields, ∃ last,
        Strips true
          (memberPieces field.comment ([.word field.ident, .word ": "] ++ field.type.pieces))
          (memberPieces none ([.word field.ident, .word ": "] ++ field.type.pieces)) last :=
      fun field hfield => strips_memberPieces field.comment (h.2 field hfield).areSlashFree
    have hkeywords : isSlashFree "pub struct ".toList := by decide
    have hblock := strips_blockPieces (areSlashFree_head hkeywords h.1) hfields
    have hall := ((strips_docPieces comment).append (.refl true hattribute)).append
      ((hblock _).append (hline false))
    simpa [layout, withoutComments, objectPieces, docPieces, docLines,
      FieldDeclaration.withoutComment, Function.comp_def] using hall
  | enum name comment variants =>
    have hvariants : ∀ variant ∈ variants, ∃ last,
        Strips true (memberPieces variant.comment [.word variant.ident])
          (memberPieces none [.word variant.ident]) last :=
      fun variant hvariant =>
        strips_memberPieces variant.comment (areSlashFree_variant (h.2 variant hvariant))
    have hkeywords : isSlashFree "pub enum ".toList := by decide
    have hblock := strips_blockPieces (areSlashFree_head hkeywords h.1) hvariants
    have hall := (strips_docPieces comment).append ((hblock true).append (hline false))
    simpa [layout, withoutComments, enumPieces, docPieces, docLines,
      VariantDeclaration.withoutComment, Function.comp_def] using hall
  | query field method result comment =>
    obtain ⟨hname, hmethod, hresult⟩ := h
    have hmember : ∀ method' ∈ [method], ∃ last,
        Strips true (docPieces comment ++ methodPieces method' result) (methodPieces method' result)
          last := by
      intro method' hmem
      rw [List.mem_singleton.mp hmem]
      exact ⟨_, (strips_docPieces comment).append
        (.refl true (areSlashFree_methodPieces hmethod hresult))⟩
    have hkeywords : isSlashFree "impl ".toList := by decide
    have hblock := strips_blockPieces (areSlashFree_head hkeywords hname) hmember
    have hall :=
      (Strips.refl true (areSlashFree_stub hname)).append ((hblock _).append (hline false))
    simpa [layout, withoutComments, queryPieces, docPieces, docLines] using hall

/-- Comment lines in front of pieces in which a line ends do not change that one does. -/
theorem breaksInside_docPieces (comment : Option String) {rest : List Piece}
    (h : breaksInside 1 rest) : breaksInside 1 (docPieces comment ++ rest) := by
  unfold docPieces
  cases docLines comment with
  | nil => exact h
  | cons line lines => rfl

/-- A line ends in every declaration. -/
theorem Declaration.breaksInside_layout (declaration : Declaration) :
    breaksInside 1 declaration.layout := by
  cases declaration with
  | scalar name comment => exact breaksInside_docPieces comment rfl
  | object name comment fields =>
    rw [layout, objectPieces, List.append_assoc, List.append_assoc]
    apply breaksInside_docPieces
    unfold blockPieces
    split <;> rfl
  | enum name comment variants =>
    rw [layout, enumPieces, List.append_assoc]
    apply breaksInside_docPieces
    unfold blockPieces
    split <;> rfl
  | query field method result comment => rfl

/-- The box around all declarations does not fit if there is anything in it. -/
theorem fits_layouts (prelude : Bool) (declarations : List Declaration)
    (h : prelude = true ∨ declarations ≠ []) :
    fits lineWidth 1 ((if prelude then preludePieces else []) ++
      declarations.flatMap Declaration.layout ++ [.boxEnd]) = false := by
  cases prelude with
  | true =>
    rw [List.append_assoc]
    exact fits_of_breaksInside rfl lineWidth _
  | false =>
    cases declarations with
    | nil => simp at h
    | cons declaration declarations =>
      rw [List.flatMap_cons, ← List.append_assoc, List.append_assoc]
      exact fits_of_breaksInside declaration.breaksInside_layout lineWidth _

/-- Declarations behind the imports may be printed without their comments. -/
theorem strips_layouts {declarations : List Declaration} (prelude : Bool)
    (h : ∀ declaration ∈ declarations, declaration.WellNamed) :
    Strips true ((if prelude then preludePieces else []) ++
      declarations.flatMap Declaration.layout ++ [.boxEnd])
      ((if prelude then preludePieces else []) ++
        (declarations.map (·.withoutComments)).flatMap Declaration.layout ++ [.boxEnd]) false := by
  have hprelude : Strips true (if prelude then preludePieces else [])
      (if prelude then preludePieces else []) true := by
    cases prelude with
    | false => exact .nil true
    | true => exact .refl true (by decide)
  have hlayouts : Strips true (declarations.flatMap Declaration.layout)
      ((declarations.map (·.withoutComments)).flatMap Declaration.layout) true := by
    clear hprelude
    induction declarations with
    | nil => exact .nil true
    | cons declaration declarations ih =>
      rw [List.forall_mem_cons] at h
      exact (Declaration.strips_layout h.1).append (ih h.2)
  have hend : Strips true [.boxEnd] [.boxEnd] false := .refl true rfl
  exact (hprelude.append hlayouts).append hend

/-- Without its comment lines the text of declarations is that of the declarations
without comments. -/
theorem dropDocLines_layoutText {declarations : List Declaration} (prelude : Bool)
    (h : ∀ declaration ∈ declarations, declaration.WellNamed) :
    dropDocLines (layoutText declarations prelude) =
      layoutText (declarations.map (·.withoutComments)) prelude := by
  apply dropDocLines_print (strips_layouts prelude h)
  by_cases hany : prelude = true ∨ declarations ≠ []
  · rw [fits_layouts prelude declarations hany, fits_layouts prelude _ (by simpa using hany)]
  · rw [not_or, not_not] at hany
    rw [hany.2]
    rfl

end SdlCodegen
