import SdlCodegen.TypeExpr
import SdlCodegen.Proofs.Identifier

/-!
# Reading type expressions back

The text of an expression determines it: `read?` gives an expression exactly for its own text, and
only if every name in the expression may stand for a type. What a reference resolves to has this
property when the name in the reference is escaped.
-/

namespace SdlCodegen

namespace TypeExpr

/-- The heads of all generic types, outermost first. -/
def heads : TypeExpr → List String
  | name _ => []
  | generic head argument => head :: argument.heads

/-- Whether all names in an expression may stand for types. -/
def isWellNamed (type : TypeExpr) : Bool :=
  (type.heads ++ [type.leaf]).all Identifier.isTypeName

/-- An expression is its leaf under its heads. -/
theorem wrap_heads_leaf (type : TypeExpr) : wrap type.heads type.leaf = type := by
  induction type with
  | name ident => rfl
  | generic head argument ih =>
    change generic head (wrap argument.heads argument.leaf) = generic head argument
    rw [ih]

/-- The heads of a wrapped name are those it is wrapped in. -/
theorem heads_wrap (heads : List String) (ident : String) : (wrap heads ident).heads = heads := by
  induction heads with
  | nil => rfl
  | cons head heads ih =>
    change head :: (wrap heads ident).heads = head :: heads
    rw [ih]

/-- The leaf of a wrapped name is the name. -/
theorem leaf_wrap (heads : List String) (ident : String) : (wrap heads ident).leaf = ident := by
  induction heads with
  | nil => rfl
  | cons head heads ih => exact ih

/-- A wrapped name is well named if it and its heads may stand for types. -/
theorem isWellNamed_wrap (heads : List String) (ident : String) :
    (wrap heads ident).isWellNamed = (heads ++ [ident]).all Identifier.isTypeName := by
  rw [isWellNamed, heads_wrap, leaf_wrap]

/-- The segments of a text between opening brackets: the heads, and the name with all closing
ones. -/
def segments (heads : List String) (ident : String) : List (List Char) :=
  heads.map String.toList ++ [ident.toList ++ List.replicate heads.length '>']

/-- A wrapped name is written as its segments with opening brackets between them. -/
theorem toList_text_wrap (heads : List String) (ident : String) :
    (wrap heads ident).text.toList = List.intercalate ['<'] (segments heads ident) := by
  -- closing brackets that follow are taken along, since the inner text is closed before them
  have hclosed : ∀ count, (wrap heads ident).text.toList ++ List.replicate count '>' =
      List.intercalate ['<']
        (heads.map String.toList ++
          [ident.toList ++ List.replicate (heads.length + count) '>']) := by
    induction heads with
    | nil =>
      intro count
      simp [wrap, text]
    | cons head heads ih =>
      intro count
      change (head ++ "<" ++ (wrap heads ident).text ++ ">").toList ++ _ = _
      have hrest := ih (count + 1)
      have hne : heads.map String.toList ++
          [ident.toList ++ List.replicate (heads.length + (count + 1)) '>'] ≠ [] := by simp
      rw [List.map_cons, List.cons_append, List.length_cons,
        Nat.add_right_comm heads.length 1 count, Nat.add_assoc,
        List.intercalate_cons_of_ne_nil hne, ← hrest, List.replicate_succ]
      simp
  simpa [segments] using hclosed 0

/-- No bracket stands in an identifier. -/
theorem bracket_not_mem {name : String} (h : Identifier.isValid name) :
    '<' ∉ name.toList ∧ '>' ∉ name.toList := by
  constructor
  · intro hmem
    exact absurd (Identifier.isContinue_of_isValid h hmem) (by decide)
  · intro hmem
    exact absurd (Identifier.isContinue_of_isValid h hmem) (by decide)

/-- The text of a wrapped identifier is cut into its segments. -/
theorem pieces_text_wrap {heads : List String} {ident : String}
    (h : ∀ name ∈ heads ++ [ident], Identifier.isValid name) :
    Text.pieces '<' (wrap heads ident).text.toList = segments heads ident := by
  have hsegments : ∀ segment ∈ segments heads ident, '<' ∉ segment := by
    intro segment hsegment
    rcases List.mem_append.mp hsegment with hhead | hlast
    · obtain ⟨head, hmem, rfl⟩ := List.mem_map.mp hhead
      exact (bracket_not_mem (h head (List.mem_append_left _ hmem))).1
    · rw [List.mem_singleton.mp hlast]
      have hleaf := (bracket_not_mem (h ident (by simp))).1
      simp [hleaf]
  rw [toList_text_wrap]
  exact Text.pieces_intercalate (by simp [segments]) hsegments

/-- The text of an expression is read as that expression if all names in it may stand for types. -/
theorem read?_text {type : TypeExpr} (h : type.isWellNamed) : read? type.text = some type := by
  have hnames : ∀ name ∈ type.heads ++ [type.leaf], Identifier.isValid name :=
    fun name hname => Identifier.isValid_of_isTypeName (List.all_eq_true.mp h name hname)
  have hpieces : Text.pieces '<' type.text.toList = segments type.heads type.leaf := by
    conv_lhs => rw [← wrap_heads_leaf type]
    exact pieces_text_wrap hnames
  have hleaf : ∀ c ∈ type.leaf.toList, (c != '>') = true := by
    intro c hc
    have hbracket := (bracket_not_mem (hnames type.leaf (by simp))).2
    rw [bne_iff_ne]
    intro heq
    subst heq
    exact hbracket hc
  have htake : (type.leaf.toList ++ List.replicate type.heads.length '>').takeWhile (· != '>') =
      type.leaf.toList := by
    rw [List.takeWhile_append_of_pos hleaf]
    simp
  have hdrop : (type.leaf.toList ++ List.replicate type.heads.length '>').dropWhile (· != '>') =
      List.replicate type.heads.length '>' := by
    rw [List.dropWhile_append_of_pos hleaf]
    simp
  have hheads : (type.heads.map String.toList).map String.ofList = type.heads := by
    simp [Function.comp_def]
  rw [read?, hpieces]
  simp only [segments, List.dropLast_concat, List.getLastD_concat, hheads, htake, hdrop,
    String.ofList_toList, wrap_heads_leaf, true_and]
  exact if_pos h

/-- An expression is read only from its own text, and only if all names in it may stand for
types. -/
theorem read?_eq_some {text : String} {type : TypeExpr} (h : read? text = some type) :
    text = type.text ∧ type.isWellNamed := by
  dsimp only [read?] at h
  split at h
  · next hread =>
    obtain ⟨hclosing, hnames⟩ := hread
    cases h
    rw [isWellNamed_wrap]
    refine ⟨?_, hnames⟩
    apply String.toList_injective
    rw [toList_text_wrap, segments, String.toList_ofList, ← hclosing,
      List.takeWhile_append_dropWhile]
    conv_lhs => rw [← Text.intercalate_pieces '<' text.toList]
    have hpieces : Text.pieces '<' text.toList = (Text.pieces '<' text.toList).dropLast ++
        [(Text.pieces '<' text.toList).getLastD []] := by
      rw [Text.pieces, List.getLastD_cons, ← List.getLast_eq_getLastD]
      exact (List.dropLast_append_getLast (List.cons_ne_nil _ _)).symm
    have hheads : ((Text.pieces '<' text.toList).dropLast.map String.ofList).map String.toList =
        (Text.pieces '<' text.toList).dropLast := by
      simp [Function.comp_def]
    rw [hheads]
    exact congrArg (List.intercalate ['<']) hpieces
  · cases h

/-- A type under a generic one is well named if the head and the type are. -/
theorem isWellNamed_generic {head : String} {argument : TypeExpr} :
    (generic head argument).isWellNamed ↔
      Identifier.isTypeName head ∧ argument.isWellNamed := by
  simp [isWellNamed, heads, leaf]

/-- A name is well named if it may stand for a type. -/
theorem isWellNamed_name {ident : String} :
    (name ident).isWellNamed ↔ Identifier.isTypeName ident := by
  simp [isWellNamed, heads, leaf]

end TypeExpr

namespace TypeRef

/-- The element type of a list is well named if the name in it may stand for a type. -/
theorem isWellNamed_resolveElement {type : TypeRef} (h : Identifier.isTypeName type.leaf) :
    type.resolveElement.isWellNamed := by
  induction type with
  | named name => exact TypeExpr.isWellNamed_name.mpr h
  | list element ih => exact TypeExpr.isWellNamed_generic.mpr ⟨by decide, ih h⟩
  | nonNull inner ih => exact ih h

/-- A type resolves if it is not one non-null wrapper directly under another, and then to an
expression that is well named if the name in the type may stand for a type. -/
theorem exists_resolve_eq_ok {type : TypeRef} (hsingle : type.isDoubledNonNull = false)
    (h : Identifier.isTypeName type.leaf) :
    ∃ expression, type.resolve = .ok expression ∧ expression.isWellNamed := by
  cases type with
  | named name =>
    exact ⟨_, rfl, TypeExpr.isWellNamed_generic.mpr ⟨by decide, TypeExpr.isWellNamed_name.mpr h⟩⟩
  | list element =>
    have helement : element.resolveElement.isWellNamed := isWellNamed_resolveElement h
    have hsequence : (TypeExpr.sequence element.resolveElement).isWellNamed :=
      TypeExpr.isWellNamed_generic.mpr ⟨by decide, helement⟩
    exact ⟨_, rfl, TypeExpr.isWellNamed_generic.mpr ⟨by decide, hsequence⟩⟩
  | nonNull inner =>
    cases inner with
    | named name => exact ⟨_, rfl, TypeExpr.isWellNamed_name.mpr h⟩
    | list element =>
      have helement : element.resolveElement.isWellNamed := isWellNamed_resolveElement h
      exact ⟨_, rfl, TypeExpr.isWellNamed_generic.mpr ⟨by decide, helement⟩⟩
    | nonNull inner => simp [isDoubledNonNull] at hsingle

/-- Renaming keeps whether one non-null wrapper stands directly under another. -/
theorem isDoubledNonNull_mapNames (f : String → String) (type : TypeRef) :
    (type.mapNames f).isDoubledNonNull = type.isDoubledNonNull := by
  cases type with
  | named name => rfl
  | list element => rfl
  | nonNull inner => cases inner <;> rfl

end TypeRef

end SdlCodegen
