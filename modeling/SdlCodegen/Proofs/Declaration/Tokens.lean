import SdlCodegen.Proofs.DocComment
import SdlCodegen.Proofs.Generation
import SdlCodegen.Proofs.Layout.Prints

/-!
# Tokens of declarations

A declaration has the tokens of a template in which only the names, the types, the members and the
lines of comments vary. The layout of a well named declaration prints these tokens from the
beginning of a line to the beginning of a line, with a comma behind every member.
-/

namespace SdlCodegen

open Layout Token

/-- The tokens of a type expression. -/
def TypeExpr.tokens : TypeExpr → List String
  | name ident => [ident]
  | generic head argument => [head, "<"] ++ argument.tokens ++ [">"]

/-- The tokens of an item in braces behind a head. -/
def blockTokens (head : List String) (members : List (List String)) : List String :=
  head ++ ["\x7b"] ++ members.flatten ++ ["\x7d"]

/-- The tokens of an attribute that derives a trait. -/
def deriveTokens (trait : String) : List String :=
  ["#", "[", "derive", "(", trait, ")", "]"]

/-- The tokens of a field of a struct, with its comment lines. -/
def FieldDeclaration.tokens (field : FieldDeclaration) : List String :=
  docLines field.comment ++ [field.ident, ":"] ++ field.type.tokens ++ [","]

/-- The tokens of a variant of an enum, with its comment lines. -/
def VariantDeclaration.tokens (variant : VariantDeclaration) : List String :=
  docLines variant.comment ++ [variant.ident, ","]

/-- The tokens of the method of a stub. -/
def methodTokens (method : String) (result : TypeExpr) : List String :=
  ["pub", "async", "fn", method, "(", "&", "self", ",", "_ctx", ":", "&", "Context", "<", "'_", ">",
    ")", "->"] ++ (TypeExpr.generic "Result" result).tokens ++
    ["\x7b", "unimplemented", "!", "(", ")", "\x7d"]

/-- The tokens of a declaration, with its comment lines. -/
def Declaration.tokens : Declaration → List String
  | scalar name comment =>
    docLines comment ++ ["pub", "struct", name, "(", "String", ")", ";"]
  | object name comment fields =>
    docLines comment ++ deriveTokens "SimpleObject" ++
      blockTokens ["pub", "struct", name] (fields.map (·.tokens))
  | enum name comment variants =>
    docLines comment ++ blockTokens ["pub", "enum", name] (variants.map (·.tokens))
  | query field method result comment =>
    deriveTokens "Default" ++
      ["pub", "struct", queryStruct field, ";"] ++ ["#", "[", "Object", "]"] ++
      blockTokens ["impl", queryStruct field] [docLines comment ++ methodTokens method result]

/-- The tokens of the imports. -/
def preludeTokens : List String :=
  ["use", "async_graphql", "::", "\x7b", "Context", ",", "Object", ",", "Result", ",",
    "SimpleObject", "\x7d", ";"]

/-- The layout of a type prints its tokens and ends with a solid one. -/
theorem TypeExpr.prints_pieces {type : TypeExpr} (h : type.isWellNamed) {spot : Spot}
    (hspot : ∀ name, Identifier.isValid name → spot.allows name) :
    ∃ begun, isSolid begun ∧ Prints spot type.pieces type.tokens (.tight begun) := by
  induction type generalizing spot with
  | name ident =>
    have hvalid := Identifier.isValid_of_isTypeName (isWellNamed_name.mp h)
    obtain ⟨-, hsolid, -⟩ := scan_of_isValid hvalid
    exact ⟨ident.toList, hsolid, .ident hvalid (hspot ident hvalid)⟩
  | generic head argument ih =>
    obtain ⟨hhead, hargument⟩ := isWellNamed_generic.mp h
    have hvalid := Identifier.isValid_of_isTypeName hhead
    obtain ⟨-, hsolid, -⟩ := scan_of_isValid hvalid
    have hopen : Prints (.tight head.toList) [.word "<", .boxStart boxIndent, .soft 0 0 ""] ["<"]
        (.loose ['<']) :=
      .of_isSolid hsolid (by decide) (.of_readAll rfl rfl)
    have hmark : ∀ c, continues ['<'] c = false := continues_mark (by decide) (by decide)
    have hloose : ∀ name, Identifier.isValid name → (Spot.loose ['<']).allows name :=
      fun name hname => separates_of_isValid hmark hname
    obtain ⟨begun, hbegun, hinner⟩ := ih hargument hloose
    have hblank : continues begun ' ' = false := continues_of_isSolid hbegun (by decide) (by decide)
    have hcomma : continues begun ',' = false := continues_of_isSolid hbegun (by decide) (by decide)
    have hclosing : (Spot.comma begun).allows ">" :=
      Bool.and_eq_true_iff.mpr ⟨separates_of_isSolid hbegun (by decide), by decide⟩
    have hclose : Prints (.comma begun) [.word ">"] [">"] (.tight ['>']) :=
      .of_allows hclosing (.of_readAll rfl rfl)
    refine ⟨['>'], by decide, ?_⟩
    have hall := ((((Prints.ident hvalid (hspot head hvalid)).append hopen).append hinner).append
      (Prints.softComma hblank hcomma 0 (-boxIndent))).append ((Prints.boxEnd _).append hclose)
    simpa [pieces, tokens] using hall

/-- Comment lines print themselves. -/
theorem prints_docPieces (comment : Option String) :
    Prints (.tight []) (docPieces comment) (docLines comment) (.tight []) := by
  have hdoc : ∀ line ∈ docLines comment,
      Prints (.tight []) [.word line, .line 0] [line] (.tight []) := by
    intro line hline
    obtain ⟨cs, hcs, hnone⟩ := exists_toList_of_mem_docLines hline
    have hscan : scan [] line.toList = ([], line.toList) := by
      rw [hcs]
      apply scan_comment
      rw [List.mem_cons, not_or]
      exact ⟨by decide, hnone⟩
    have hne : line.toList ≠ [] := by simp [hcs]
    have hallows : (Spot.tight []).allows line := by simp [Spot.allows, separates, hcs, continues]
    exact (Prints.token hscan hne hallows).append (.line line.toList 0)
  unfold docPieces
  generalize docLines comment = lines at hdoc
  induction lines with
  | nil => exact .nil _
  | cons line lines ih =>
    rw [List.forall_mem_cons] at hdoc
    exact hdoc.1.append (ih hdoc.2)

/-- Members on lines of their own print the tokens of each. -/
theorem prints_members {α : Type} {items : List α} {f : α → List Piece} {g : α → List String}
    (hitems : ∀ item ∈ items, ∃ begun, Prints (.tight []) (f item) (g item) (.tight begun)) :
    Prints (.tight []) ((items.map f).flatMap (· ++ [.line 0])) (items.map g).flatten
      (.tight []) := by
  induction items with
  | nil => exact .nil _
  | cons item items ih =>
    rw [List.forall_mem_cons] at hitems
    obtain ⟨⟨begun, hitem⟩, hrest⟩ := hitems
    simpa using (hitem.append (.line begun 0)).append (ih hrest)

/-- The layout of a block prints the tokens of its head and its members in braces. -/
theorem prints_blockPieces {α : Type} {spot : Spot} {head : List Piece} {headTokens : List String}
    (hhead : Prints spot head headTokens (.tight [])) {items : List α} {f : α → List Piece}
    {g : α → List String}
    (hitems : ∀ item ∈ items, ∃ begun, Prints (.tight []) (f item) (g item) (.tight begun)) :
    Prints spot (blockPieces head (items.map f)) (blockTokens headTokens (items.map g))
      (.tight ['\x7d']) := by
  have hbegin := (Prints.boxStart spot boxIndent).append hhead
  cases items using List.reverseRecOn with
  | nil =>
    have hempty : Prints (.tight []) [.word "\x7b", .boxEnd, .word "\x7d"] ["\x7b", "\x7d"]
        (.tight ['\x7d']) :=
      .of_readAll rfl rfl
    simpa [blockPieces, blockTokens] using hbegin.append hempty
  | append_singleton init last =>
    have hopen : Prints (.tight []) [.word "\x7b", .line 0] ["\x7b"] (.tight []) :=
      .of_readAll rfl rfl
    have hclose : Prints (.tight []) [.boxEnd, .word "\x7d"] ["\x7d"] (.tight ['\x7d']) :=
      .of_readAll rfl rfl
    have hinit : Prints (.tight []) ((init.map f).flatMap (· ++ [.line 0])) (init.map g).flatten
        (.tight []) :=
      prints_members fun item hitem => hitems item (List.mem_append_left _ hitem)
    obtain ⟨begun, hlast⟩ := hitems last (by simp)
    have hall := (((hbegin.append hopen).append hinit).append hlast).append
      ((Prints.line begun (-boxIndent)).append hclose)
    simpa [blockPieces, blockTokens] using hall

/-- The name of an item between its keywords and its braces or marks. -/
theorem prints_head {spot : Spot} {keywords name : String} {tokens : List String}
    (hkeywords : Prints spot [.word keywords] tokens (.tight []))
    (hname : Identifier.isValid name) :
    Prints spot [.word keywords, .word name, .word " "] (tokens ++ [name]) (.tight []) := by
  obtain ⟨-, hsolid, -⟩ := scan_of_isValid hname
  have hblank : Prints (.tight name.toList) [.word " "] [] (.tight []) :=
    .of_isSolid hsolid (by decide) (.of_readAll rfl rfl)
  simpa using (hkeywords.append (.firstIdent hname)).append hblank

/-- The layout of a field prints its tokens. -/
theorem prints_field {field : FieldDeclaration} (h : field.WellNamed) :
    ∃ begun, Prints (.tight [])
      (memberPieces field.comment ([.word field.ident, .word ": "] ++ field.type.pieces))
      field.tokens (.tight begun) := by
  obtain ⟨-, hsolid, -⟩ := scan_of_isValid h.ident
  have hcolon : Prints (.tight field.ident.toList) [.word ": "] [":"] (.tight []) :=
    .of_isSolid hsolid (by decide) (.of_readAll rfl rfl)
  obtain ⟨begun, hbegun, htype⟩ := TypeExpr.prints_pieces h.type Spot.allows_ident
  have hcomma : Prints (.tight begun) [.word ","] [","] (.tight [',']) :=
    .of_isSolid hbegun (by decide) (.of_readAll rfl rfl)
  have hall := (prints_docPieces field.comment).append
    ((((Prints.firstIdent h.ident).append hcolon).append htype).append hcomma)
  exact ⟨[','], by simpa [memberPieces, FieldDeclaration.tokens] using hall⟩

/-- The layout of a variant prints its tokens. -/
theorem prints_variant {variant : VariantDeclaration} (h : Identifier.isValid variant.ident) :
    ∃ begun, Prints (.tight []) (memberPieces variant.comment [.word variant.ident])
      variant.tokens (.tight begun) := by
  obtain ⟨-, hsolid, -⟩ := scan_of_isValid h
  have hcomma : Prints (.tight variant.ident.toList) [.word ","] [","] (.tight [',']) :=
    .of_isSolid hsolid (by decide) (.of_readAll rfl rfl)
  have hall := (prints_docPieces variant.comment).append ((Prints.firstIdent h).append hcomma)
  exact ⟨[','], by simpa [memberPieces, VariantDeclaration.tokens] using hall⟩

/-- The layout of a method prints its tokens. -/
theorem prints_methodPieces {method : String} {result : TypeExpr}
    (hmethod : Identifier.isValid method) (hresult : result.isWellNamed) :
    Prints (.tight []) (methodPieces method result) (methodTokens method result)
      (.tight ['\x7d']) := by
  obtain ⟨-, hsolid, -⟩ := scan_of_isValid hmethod
  have hkeywords :
      Prints (.tight []) [.boxStart boxIndent, .word "pub async fn "] ["pub", "async", "fn"]
      (.tight []) :=
    .of_readAll rfl rfl
  have harguments : Prints (.tight method.toList)
      [.word "(", .seam, .boxStart 0, .soft 0 0 "", .word "&self", .word ",", .soft 1 0 "",
        .word "_ctx: &Context", .word "<", .boxStart boxIndent, .soft 0 0 "", .word "'_",
        .soft 0 (-boxIndent) ",", .boxEnd, .word ">", .soft 0 (-boxIndent) ",", .boxEnd, .word ")",
        .boxStart (-boxIndent), .word " -> "]
      ["(", "&", "self", ",", "_ctx", ":", "&", "Context", "<", "'_", ">", ")", "->"] (.tight []) :=
    .of_isSolid hsolid (by decide) (.of_readAll rfl rfl)
  have htype : (TypeExpr.generic "Result" result).isWellNamed :=
    TypeExpr.isWellNamed_generic.mpr ⟨by decide, hresult⟩
  obtain ⟨begun, hbegun, hprints⟩ := TypeExpr.prints_pieces htype Spot.allows_ident
  have hbody : Prints (.tight begun)
      [.word " \x7b", .line 0, .word "unimplemented!()", .line (-boxIndent), .boxEnd, .word "\x7d"]
      ["\x7b", "unimplemented", "!", "(", ")", "\x7d"] (.tight ['\x7d']) :=
    .of_isSolid hbegun (by decide) (.of_readAll rfl rfl)
  have hall := ((hkeywords.append (.firstIdent hmethod)).append harguments).append
    ((hprints.append (.boxEnd _)).append hbody)
  simpa [methodPieces, methodTokens] using hall

/-- The layout of a well named declaration prints the tokens of its template. -/
theorem Declaration.prints_layout {declaration : Declaration} (h : declaration.WellNamed) :
    Prints (.tight []) declaration.layout declaration.tokens (.tight []) := by
  cases declaration with
  | scalar name comment =>
    obtain ⟨-, hsolid, -⟩ := scan_of_isValid h
    have hkeywords : Prints (.tight []) [.boxStart boxIndent, .word "pub struct "] ["pub", "struct"]
        (.tight []) :=
      .of_readAll rfl rfl
    have hcontent : Prints (.tight name.toList)
        [.word "(", .soft 0 0 "", .word "String", .soft 0 (-boxIndent) ",", .word ")", .word ";",
          .boxEnd, .line 0]
        ["(", "String", ")", ";"] (.tight []) :=
      .of_isSolid hsolid (by decide) (.of_readAll rfl rfl)
    have hall := (prints_docPieces comment).append
      ((hkeywords.append (.firstIdent h)).append hcontent)
    simpa [layout, scalarPieces, tokens] using hall
  | object name comment fields =>
    have hattribute : Prints (.tight []) (attributePieces "#[derive(SimpleObject)]")
        (deriveTokens "SimpleObject") (.loose [']']) :=
      .of_readAll rfl rfl
    have hkeywords : Prints (.loose [']']) [.word "pub struct "] ["pub", "struct"] (.tight []) :=
      .of_allows (by decide) (.of_readAll rfl rfl)
    have hblock := prints_blockPieces (prints_head hkeywords h.1)
      fun field hfield => prints_field (h.2 field hfield)
    have hall := (((prints_docPieces comment).append hattribute).append hblock).append
      (.line ['\x7d'] 0)
    simpa [layout, objectPieces, tokens, Function.comp_def] using hall
  | enum name comment variants =>
    have hkeywords : Prints (.tight []) [.word "pub enum "] ["pub", "enum"] (.tight []) :=
      .of_readAll rfl rfl
    have hblock := prints_blockPieces (prints_head hkeywords h.1)
      fun variant hvariant => prints_variant (h.2 variant hvariant)
    have hall := ((prints_docPieces comment).append hblock).append (.line ['\x7d'] 0)
    simpa [layout, enumPieces, tokens] using hall
  | query field method result comment =>
    obtain ⟨hname, hmethod, hresult⟩ := h
    obtain ⟨-, hsolid, -⟩ := scan_of_isValid hname
    have hderive :
        Prints (.tight []) (attributePieces "#[derive(Default)]") (deriveTokens "Default")
        (.loose [']']) :=
      .of_readAll rfl rfl
    have hstruct : Prints (.loose [']']) [.word "pub struct "] ["pub", "struct"] (.tight []) :=
      .of_allows (by decide) (.of_readAll rfl rfl)
    have hend : Prints (.tight (queryStruct field).toList) [.word ";", .boxEnd, .line 0] [";"]
        (.tight []) :=
      .of_isSolid hsolid (by decide) (.of_readAll rfl rfl)
    have hattribute : Prints (.tight []) (attributePieces "#[Object]") ["#", "[", "Object", "]"]
        (.loose [']']) :=
      .of_readAll rfl rfl
    have himpl : Prints (.loose [']']) [.word "impl "] ["impl"] (.tight []) :=
      .of_allows (by decide) (.of_readAll rfl rfl)
    have hmember : ∀ method' ∈ [method], ∃ begun,
        Prints (.tight []) (docPieces comment ++ methodPieces method' result)
          (docLines comment ++ methodTokens method' result) (.tight begun) := by
      intro method' hmem
      rw [List.mem_singleton.mp hmem]
      exact ⟨['\x7d'], (prints_docPieces comment).append (prints_methodPieces hmethod hresult)⟩
    have hblock := prints_blockPieces (prints_head himpl hname) hmember
    have hitem := ((hderive.append (.boxStart _ boxIndent)).append hstruct).append
      ((Prints.firstIdent hname).append hend)
    have hall := (hitem.append hattribute).append (hblock.append (.line ['\x7d'] 0))
    simpa [layout, queryPieces, tokens] using hall

/-- The text of well named declarations has the tokens of the imports, if they are asked for, and
those of the declarations in order, up to commas in front of closing marks. -/
theorem settle_tokens_layoutText {declarations : List Declaration} (prelude : Bool)
    (h : ∀ declaration ∈ declarations, declaration.WellNamed) :
    settle (tokens (layoutText declarations prelude)) =
      settle ((if prelude then preludeTokens else []) ++ declarations.flatMap (·.tokens)) := by
  have hprelude : Prints (.tight []) (if prelude then preludePieces else [])
      (if prelude then preludeTokens else []) (.tight []) := by
    cases prelude with
    | false => exact .nil _
    | true => exact .of_readAll rfl rfl
  have hdeclarations : Prints (.tight []) (declarations.flatMap Declaration.layout)
      (declarations.flatMap (·.tokens)) (.tight []) := by
    induction declarations with
    | nil => exact .nil _
    | cons declaration declarations ih =>
      rw [List.forall_mem_cons] at h
      exact (Declaration.prints_layout h.1).append (ih h.2)
  apply settle_tokens_print
  simpa using (((Prints.boxStart (.tight []) 0).append hprelude).append hdeclarations).append
    (.boxEnd (.tight []))

end SdlCodegen
