import SdlCodegen.Layout
import SdlCodegen.Text.Blank

/-!
# Layouts with and without comment lines

Two sequences of pieces are compared that differ by comment lines, each on a line of its own and
only where a line begins that is indented as its box. The state of the printer is the same in front
of such a line and behind it, and no decision about a box looks beyond the end of a line, so the
texts differ by the comment lines and by nothing else: neither a break nor an indentation changes.
The lines of the text are those of the text without comments, with the comment lines between them in
their order, so both can be read off it.
-/

namespace SdlCodegen.Layout

/-- Whether the first characters of a line that are no blanks are three slashes. -/
def isDocLine (line : List Char) : Bool :=
  ['/', '/', '/'].isPrefixOf (line.dropWhile Text.isBlank)

/-- The lines of a text that are no comment lines. -/
def keptLines (cs : List Char) : List (List Char) :=
  (cs.splitOn '\n').filter (!isDocLine ·)

/-- A text without its comment lines. -/
def dropDocLines (text : String) : String :=
  String.ofList (List.intercalate ['\n'] (keptLines text.toList))

/-- The comment lines of a text without their indentation. -/
def commentLines (text : String) : List String :=
  ((text.toList.splitOn '\n').filter isDocLine).map fun line =>
    String.ofList (line.dropWhile (· == ' '))

/-- The comment line that a piece writes. -/
def Piece.comment? : Piece → Option String
  | word text => if isDocLine text.toList then some text else none
  | _ => none

/-- The comment lines that pieces write. -/
def comments (pieces : List Piece) : List String :=
  pieces.filterMap Piece.comment?

/-- Pieces in a row write their comment lines in a row. -/
@[simp] theorem comments_append (first second : List Piece) :
    comments (first ++ second) = comments first ++ comments second :=
  List.filterMap_append

/-- Whether a text holds neither a slash nor a line feed. -/
def isSlashFree (cs : List Char) : Bool :=
  cs.all fun c => c != '/' && c != '\n'

/-- Whether a piece writes neither a slash nor, as part of a word, a line feed. -/
def Piece.isSlashFree : Piece → Bool
  | word text => Layout.isSlashFree text.toList
  | soft _ _ last => Layout.isSlashFree last.toList
  | _ => true

/-- Whether no piece of a sequence writes a slash or, as part of a word, a line feed. -/
def areSlashFree (pieces : List Piece) : Bool :=
  pieces.all Piece.isSlashFree

/-- Pieces in a row are free of slashes if all of them are. -/
@[simp] theorem areSlashFree_append (first second : List Piece) :
    areSlashFree (first ++ second) = (areSlashFree first && areSlashFree second) :=
  List.all_append

/-- Whether a line begins behind a piece that is indented as its box, given whether one begins
before. -/
def freshAfter (fresh : Bool) : Piece → Bool
  | .line offset => offset == 0
  | .seam => fresh
  | _ => false

/-- Pieces with and without comment lines, from a place where a line begins or not to another. -/
inductive Strips : Bool → List Piece → List Piece → Bool → Prop where
  | nil (fresh : Bool) : Strips fresh [] [] fresh
  | doc {line : String} {cs : List Char} {pieces kept : List Piece} {last : Bool}
    (hline : line.toList = '/' :: '/' :: '/' :: cs) (hcs : '\n' ∉ cs)
    (hrest : Strips true pieces kept last) : Strips true (.word line :: .line 0 :: pieces) kept last
  | keep {fresh last : Bool} {piece : Piece} {pieces kept : List Piece} (hpiece : piece.isSlashFree)
    (hrest : Strips (freshAfter fresh piece) pieces kept last) :
    Strips fresh (piece :: pieces) (piece :: kept) last

namespace Strips

variable {fresh middle last : Bool} {pieces kept more moreKept : List Piece}

/-- Comparisons in a row make a comparison. -/
theorem append (hfirst : Strips fresh pieces kept middle)
    (hsecond : Strips middle more moreKept last) :
    Strips fresh (pieces ++ more) (kept ++ moreKept) last := by
  induction hfirst with
  | nil => exact hsecond
  | doc hline hcs _ ih => exact .doc hline hcs (ih hsecond)
  | keep hpiece _ ih => exact .keep hpiece (ih hsecond)

/-- Pieces without slashes have no comment lines. -/
theorem refl (fresh : Bool) (h : areSlashFree pieces) :
    Strips fresh pieces pieces (pieces.foldl freshAfter fresh) := by
  induction pieces generalizing fresh with
  | nil => exact .nil fresh
  | cons piece pieces ih =>
    rw [areSlashFree, List.all_cons, Bool.and_eq_true] at h
    exact .keep h.1 (ih (freshAfter fresh piece) h.2)

/-- Whether a box fits does not depend on comment lines behind the end of a line. -/
theorem fits_eq (h : Strips false pieces kept last) (room : Int) (depth : Nat) :
    fits room depth pieces = fits room depth kept := by
  generalize hfresh : false = fresh at h
  induction h generalizing room depth with
  | nil => rfl
  | doc => cases hfresh
  | @keep fresh last piece pieces kept hpiece hrest ih =>
    subst hfresh
    cases piece with
    | line offset => rfl
    | word text => simp only [fits, ih _ _ rfl]
    | soft blanks offset mark => simp only [fits, ih _ _ rfl]
    | seam => simp only [fits, ih _ _ rfl]
    | boxStart indent => simp only [fits, ih _ _ rfl]
    | boxEnd => simp only [fits, ih _ _ rfl]

end Strips

/-- Slashes and line feeds may come from neither part. -/
theorem isSlashFree_append (first second : List Char) :
    isSlashFree (first ++ second) = (isSlashFree first && isSlashFree second) :=
  List.all_append

/-- Blanks are no slashes. -/
theorem isSlashFree_blanks (count : Nat) : isSlashFree (List.replicate count ' ') := by
  simp [isSlashFree]

/-- A text without slashes is on one line. -/
theorem newline_not_mem_of_isSlashFree {cs : List Char} (h : isSlashFree cs) : '\n' ∉ cs := by
  intro hmem
  exact absurd (List.all_eq_true.mp h '\n' hmem) (by decide)

/-- A line without slashes is no comment line. -/
theorem isDocLine_of_isSlashFree {cs : List Char} (h : isSlashFree cs) : isDocLine cs = false := by
  unfold isDocLine
  cases hdrop : cs.dropWhile Text.isBlank with
  | nil => rfl
  | cons c rest =>
    have hfirst : c ∈ cs.dropWhile Text.isBlank := by
      rw [hdrop]
      exact List.mem_cons_self
    have hmem : c ∈ cs := (List.dropWhile_sublist _).subset hfirst
    have hc : c ≠ '/' := by
      intro heq
      subst heq
      exact absurd (List.all_eq_true.mp h '/' hmem) (by decide)
    simp [List.isPrefixOf, Ne.symm hc]

/-- A word without slashes is no comment line. -/
theorem comment?_of_isSlashFree {piece : Piece} (h : piece.isSlashFree) :
    piece.comment? = none := by
  cases piece with
  | word text =>
    simp [Piece.comment?, isDocLine_of_isSlashFree (show isSlashFree text.toList from h)]
  | _ => rfl

/-- Pieces without slashes write no comment lines. -/
theorem comments_of_areSlashFree {pieces : List Piece} (h : areSlashFree pieces) :
    comments pieces = [] := by
  rw [comments, List.filterMap_eq_nil_iff]
  exact fun piece hpiece => comment?_of_isSlashFree (List.all_eq_true.mp h piece hpiece)

/-- What is left of an indented line that begins with a slash without its indentation. -/
theorem dropWhile_indented {drop : Char → Bool} (hblank : drop ' ' = true)
    (hslash : drop '/' = false) (indent : Nat) (cs : List Char) :
    (List.replicate indent ' ' ++ '/' :: cs).dropWhile drop = '/' :: cs := by
  have hblanks : ∀ c ∈ List.replicate indent ' ', drop c = true := by
    intro c hc
    rw [List.eq_of_mem_replicate hc]
    exact hblank
  rw [List.dropWhile_append_of_pos hblanks, List.dropWhile_cons_of_neg (by simp [hslash])]

/-- Three slashes begin a comment line however deep it is indented. -/
theorem isDocLine_indented (indent : Nat) (cs : List Char) :
    isDocLine (List.replicate indent ' ' ++ '/' :: '/' :: '/' :: cs) := by
  rw [isDocLine, dropWhile_indented (by decide) (by decide)]
  simp [List.isPrefixOf]

/-- The first are comment lines, the last are lines that are none, and those in the middle are both
of them, each in its order and the comment lines indented. -/
inductive Interleaves : List String → List (List Char) → List (List Char) → Prop where
  | nil : Interleaves [] [] []
  | comment {line : String} {cs : List Char} {comments : List String} {all kept : List (List Char)}
    (hline : line.toList = '/' :: '/' :: '/' :: cs) (indent : Nat)
    (hrest : Interleaves comments all kept) :
    Interleaves (line :: comments) ((List.replicate indent ' ' ++ line.toList) :: all) kept
  | keep {line : List Char} {comments : List String} {all kept : List (List Char)}
    (hline : isSlashFree line) (hrest : Interleaves comments all kept) :
    Interleaves comments (line :: all) (line :: kept)

namespace Interleaves

variable {comments : List String} {all kept : List (List Char)}

/-- The lines that are no comment lines. -/
theorem filter_not_isDocLine (h : Interleaves comments all kept) :
    all.filter (!isDocLine ·) = kept := by
  induction h with
  | nil => rfl
  | comment hline indent _ ih =>
    rw [hline, List.filter_cons_of_neg (by simp [isDocLine_indented]), ih]
  | keep hline _ ih =>
    rw [List.filter_cons_of_pos (by simp [isDocLine_of_isSlashFree hline]), ih]

/-- The comment lines without their indentation. -/
theorem filter_isDocLine (h : Interleaves comments all kept) :
    (all.filter isDocLine).map (fun line => String.ofList (line.dropWhile (· == ' '))) =
      comments := by
  induction h with
  | nil => rfl
  | @comment line cs _ _ _ hline indent _ ih =>
    have hword : String.ofList ('/' :: '/' :: '/' :: cs) = line := by
      rw [← hline, String.ofList_toList]
    rw [hline, List.filter_cons_of_pos (isDocLine_indented indent cs), List.map_cons, ih,
      dropWhile_indented rfl rfl, hword]
  | keep hline _ ih =>
    rw [List.filter_cons_of_neg (by simp [isDocLine_of_isSlashFree hline]), ih]

end Interleaves

/-- The lines of pieces with comment lines are those of the pieces without them and the comment
lines. -/
theorem Strips.interleaves_printFrom {fresh last : Bool} {pieces kept : List Piece}
    (h : Strips fresh pieces kept last) {state : State} {cs : List Char} (hcs : isSlashFree cs)
    (hfresh : fresh = true → cs = [] ∧ state.nextLine 0 = state) :
    Interleaves (comments pieces) ((cs ++ printFrom state pieces).splitOn '\n')
      ((cs ++ printFrom state kept).splitOn '\n') := by
  -- `cs` is what the line holds so far; a comment line comes only where that is nothing, and then
  -- the printer is behind the comment line where it was in front of it
  induction h generalizing state cs with
  | nil =>
    rw [printFrom, List.append_nil, List.splitOn_eq_singleton (newline_not_mem_of_isSlashFree hcs)]
    exact .keep hcs .nil
  | @doc line text pieces kept last hline htext _ ih =>
    obtain ⟨rfl, hstate⟩ := hfresh rfl
    have hsame : (state.write line).nextLine 0 = state := hstate
    have hcomments : comments (.word line :: .line 0 :: pieces) = line :: comments pieces := by
      have hdoc := isDocLine_indented 0 text
      rw [List.replicate_zero, List.nil_append, ← hline] at hdoc
      exact List.filterMap_cons_some (if_pos hdoc)
    have hnewline : '\n' ∉ List.replicate state.due ' ' ++ line.toList := by
      simp [hline, htext]
    rw [printFrom, printFrom, hsame, hcomments, List.nil_append,
      List.splitOn_append_cons_self_of_not_mem hnewline]
    exact .comment hline state.due (ih rfl fun _ => ⟨rfl, hstate⟩)
  | @keep fresh last piece pieces kept hpiece hrest ih =>
    have hcomments : comments (piece :: pieces) = comments pieces :=
      List.filterMap_cons_none (comment?_of_isSlashFree hpiece)
    rw [hcomments]
    cases piece with
    | word text =>
      have hline : isSlashFree (cs ++ (List.replicate state.due ' ' ++ text.toList)) := by
        rw [isSlashFree_append, isSlashFree_append, hcs, isSlashFree_blanks]
        exact hpiece
      have hlines := @ih (state.write text) _ hline (by simp [freshAfter])
      rw [printFrom, printFrom]
      simpa only [List.append_assoc] using hlines
    | soft blanks offset mark =>
      rw [printFrom, printFrom]
      split
      · exact ih hcs (by simp [freshAfter])
      · have hmark : isSlashFree
            (cs ++ if mark.isEmpty then [] else List.replicate state.due ' ' ++ mark.toList) := by
          rw [isSlashFree_append, hcs]
          split
          · rfl
          · rw [isSlashFree_append, isSlashFree_blanks]
            exact hpiece
        rw [← List.append_assoc, ← List.append_assoc,
          List.splitOn_append_cons_self_of_not_mem (newline_not_mem_of_isSlashFree hmark),
          List.splitOn_append_cons_self_of_not_mem (newline_not_mem_of_isSlashFree hmark)]
        exact .keep hmark (@ih (state.nextLine offset) [] rfl (by simp [freshAfter]))
    | line offset =>
      rw [printFrom, printFrom,
        List.splitOn_append_cons_self_of_not_mem (newline_not_mem_of_isSlashFree hcs),
        List.splitOn_append_cons_self_of_not_mem (newline_not_mem_of_isSlashFree hcs)]
      have hbegin : freshAfter fresh (.line offset) = true →
          ([] : List Char) = [] ∧ (state.nextLine offset).nextLine 0 = state.nextLine offset := by
        intro hoffset
        have hzero : offset = 0 := by simpa [freshAfter] using hoffset
        rw [hzero]
        exact ⟨rfl, rfl⟩
      exact .keep hcs (ih rfl hbegin)
    | seam => exact ih hcs hfresh
    | boxStart indent =>
      have henter : state.enter indent pieces = state.enter indent kept := by
        unfold State.enter
        rw [hrest.fits_eq]
      rw [printFrom, printFrom, henter]
      exact ih hcs (by simp [freshAfter])
    | boxEnd => exact ih hcs (by simp [freshAfter])

/-- The same for pieces at the beginning of a box that is not indented. -/
theorem Strips.interleaves_enter {pieces kept : List Piece} {last : Bool}
    (h : Strips true pieces kept last) :
    Interleaves (comments pieces) ((printFrom (State.start.enter 0 pieces) pieces).splitOn '\n')
      ((printFrom (State.start.enter 0 pieces) kept).splitOn '\n') := by
  have hbegin : (State.start.enter 0 pieces).nextLine 0 = State.start.enter 0 pieces := by
    unfold State.enter
    split <;> rfl
  exact h.interleaves_printFrom rfl fun _ => ⟨rfl, hbegin⟩

/-- The comment lines of a text in a box that is not indented are those that its pieces write. -/
theorem commentLines_print {pieces kept : List Piece} {last : Bool}
    (h : Strips true pieces kept last) :
    commentLines (print (.boxStart 0 :: pieces)) = comments pieces := by
  rw [commentLines, print, String.toList_ofList, printFrom]
  exact h.interleaves_enter.filter_isDocLine

/-- Whether a line ends in pieces before all of the open boxes do. -/
def breaksInside : Nat → List Piece → Bool
  | 0, _ | _, [] => false
  | _ + 1, .line _ :: _ => true
  | depth + 1, .boxStart _ :: rest => breaksInside (depth + 2) rest
  | depth + 1, .boxEnd :: rest => breaksInside depth rest
  | depth + 1, .word _ :: rest | depth + 1, .soft .. :: rest | depth + 1, .seam :: rest =>
    breaksInside (depth + 1) rest

/-- A box in which a line ends does not fit, whatever follows. -/
theorem fits_of_breaksInside {depth : Nat} {pieces : List Piece} (h : breaksInside depth pieces)
    (room : Int) (rest : List Piece) : fits room depth (pieces ++ rest) = false := by
  induction pieces generalizing depth room with
  | nil => cases depth <;> cases h
  | cons piece pieces ih =>
    cases depth with
    | zero => cases h
    | succ depth =>
      cases piece with
      | word text => simp [fits, ih h]
      | soft blanks offset mark => simp [fits, ih h]
      | line offset => simp [fits]
      | seam => simp [fits, ih h]
      | boxStart indent => simpa [fits] using ih h room
      | boxEnd => simpa [fits] using ih h room

/-- A text in a box that is not indented is, without its comment lines, the text without them, if
the box fits in both cases or in neither. -/
theorem dropDocLines_print {pieces kept : List Piece} {last : Bool}
    (h : Strips true pieces kept last) (hfits : fits lineWidth 1 pieces = fits lineWidth 1 kept) :
    dropDocLines (print (.boxStart 0 :: pieces)) = print (.boxStart 0 :: kept) := by
  have henter : State.start.enter 0 pieces = State.start.enter 0 kept := by
    change (if fits lineWidth 1 pieces then _ else _) = if fits lineWidth 1 kept then _ else _
    rw [hfits]
  have hlines : keptLines (printFrom (State.start.enter 0 pieces) pieces) = _ :=
    h.interleaves_enter.filter_not_isDocLine
  rw [dropDocLines, print, print, String.toList_ofList, printFrom, printFrom, hlines,
    List.intercalate_splitOn, henter]

end SdlCodegen.Layout
