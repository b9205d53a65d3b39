import SdlCodegen.Proofs.Layout.Reading

/-!
# Tokens of pieces in a row

What pieces print from one spot to another, with the token that is begun at the end counted as
printed. Counted like this, pieces in a row print the tokens of each, so the tokens of a declaration
are found part by part: the names in it by what identifiers are, and everything else by evaluation.
-/

namespace SdlCodegen.Layout

open Token

/-- The token that is begun at a spot. -/
def Spot.begun : Spot → List Char
  | tight begun | loose begun | comma begun => begun

/-- Whether a word may stand at a spot as if nothing were begun. -/
def Spot.allows : Spot → String → Bool
  | tight begun, text | loose begun, text => separates begun text
  | comma begun, text => separates begun text && (closingMark? text).isSome

/-- Pieces lead from one spot to another and print given tokens, of which the last may
still be begun. -/
def Prints (spot : Spot) (pieces : List Piece) (tokens : List String) (next : Spot) : Prop :=
  ∃ found, spot.readAll pieces = some (found, next) ∧
    finished spot.begun ++ tokens = found ++ finished next.begun

/-- Pieces in a row are read one after the other. -/
theorem Spot.readAll_append {spot middle last : Spot} {first second : List Piece}
    {found others : List String} (hfirst : spot.readAll first = some (found, middle))
    (hsecond : middle.readAll second = some (others, last)) :
    spot.readAll (first ++ second) = some (found ++ others, last) := by
  induction first generalizing spot found with
  | nil =>
    cases hfirst
    exact hsecond
  | cons piece pieces ih =>
    obtain ⟨here, next, later, hpiece, hpieces, rfl⟩ := readAll_cons.mp hfirst
    rw [List.cons_append, List.append_assoc]
    exact readAll_cons.mpr ⟨here, next, later ++ others, hpiece, ih hpieces, rfl⟩

/-- A solid token may be followed by any word that begins with a mark. -/
theorem separates_of_isSolid {begun : List Char} (h : isSolid begun) {text : String}
    (hmark : text.toList.head?.any fun c => !Identifier.isContinue c && c != '#') :
    separates begun text := by
  cases htext : text.toList with
  | nil => simp [htext] at hmark
  | cons c rest =>
    simp only [htext, List.head?_cons, Option.any_some, Bool.and_eq_true, Bool.not_eq_true',
      bne_iff_ne] at hmark
    simp [separates, htext, continues_of_isSolid h hmark.1 hmark.2]

/-- Where nothing goes on with the token that is begun, every identifier may stand. -/
theorem separates_of_isValid {begun : List Char} (h : ∀ c, continues begun c = false)
    {name : String} (hname : Identifier.isValid name) : separates begun name := by
  obtain ⟨-, -, hne⟩ := scan_of_isValid hname
  cases htext : name.toList with
  | nil => exact absurd htext hne
  | cons c rest => simp [separates, htext, h c]

/-- Where no token is begun, every identifier may stand. -/
theorem Spot.allows_ident (name : String) (h : Identifier.isValid name) : (tight []).allows name :=
  separates_of_isValid (fun _ => rfl) h

namespace Prints

variable {spot middle next : Spot} {pieces first second : List Piece} {tokens others : List String}

/-- No pieces print nothing. -/
theorem nil (spot : Spot) : Prints spot [] [] spot :=
  ⟨[], rfl, by simp⟩

/-- Pieces in a row print the tokens of each. -/
theorem append (hfirst : Prints spot first tokens middle)
    (hsecond : Prints middle second others next) :
    Prints spot (first ++ second) (tokens ++ others) next := by
  obtain ⟨found, hread, hfound⟩ := hfirst
  obtain ⟨more, hmore, hothers⟩ := hsecond
  refine ⟨found ++ more, Spot.readAll_append hread hmore, ?_⟩
  rw [← List.append_assoc, hfound, List.append_assoc, hothers, List.append_assoc]

/-- What pieces print where nothing is begun is found by reading them. -/
theorem of_readAll {found : List String}
    (hread : (Spot.tight []).readAll pieces = some (found, next))
    (htokens : found ++ finished next.begun = tokens) : Prints (.tight []) pieces tokens next :=
  ⟨found, hread, by simpa [finished, Spot.begun] using htokens.symm⟩

/-- A word prints the same wherever it may stand as if nothing were begun. -/
theorem of_allows {text : String} (hallows : spot.allows text)
    (h : Prints (.tight []) (.word text :: pieces) tokens next) :
    Prints spot (.word text :: pieces) tokens next := by
  obtain ⟨found, hread, htokens⟩ := h
  obtain ⟨here, middle, later, hword, hlater, rfl⟩ := Spot.readAll_cons.mp hread
  cases hword
  have hspot : spot.read (.word text) =
      some (finished spot.begun ++ (scan [] text.toList).1, .tight (scan [] text.toList).2) := by
    cases spot with
    | tight begun =>
      obtain ⟨c, cs, htext, hc⟩ := exists_cons_of_separates hallows
      have hnone : continues [] c = false := rfl
      simp [Spot.read, Spot.begun, htext, scan, hc, hnone, finished]
    | loose begun =>
      have hseparates : separates begun text := hallows
      simp [Spot.read, Spot.begun, hseparates]
    | comma begun =>
      have hclosing : separates begun text ∧ (closingMark? text).isSome := by
        simpa [Spot.allows] using hallows
      simp [Spot.read, Spot.begun, hclosing.1, hclosing.2]
  refine ⟨finished spot.begun ++ (scan [] text.toList).1 ++ later, ?_, ?_⟩
  · exact Spot.readAll_cons.mpr ⟨_, _, later, hspot, hlater, rfl⟩
  · have hhere : tokens = (scan [] text.toList).1 ++ later ++ finished next.begun := by
      simpa [finished, Spot.begun] using htokens
    rw [hhere, ← List.append_assoc, ← List.append_assoc]

/-- The beginning of a box prints nothing. -/
theorem boxStart (spot : Spot) (indent : Int) : Prints spot [.boxStart indent] [] spot := by
  refine ⟨[], ?_, by simp⟩
  cases spot <;> rfl

/-- The end of a box prints nothing. -/
theorem boxEnd (spot : Spot) : Prints spot [.boxEnd] [] spot := by
  refine ⟨[], ?_, by simp⟩
  cases spot <;> rfl

/-- The end of a line prints nothing and ends the token before it. -/
theorem line (begun : List Char) (offset : Int) :
    Prints (.tight begun) [.line offset] [] (.tight []) :=
  ⟨finished begun, by simp [Spot.readAll, Spot.read], by simp [finished, Spot.begun]⟩

/-- A break prints nothing behind a token that goes on with no blank. -/
theorem soft {begun : List Char} (h : continues begun ' ' = false) (blanks : Nat) (offset : Int) :
    Prints (.tight begun) [.soft blanks offset ""] [] (.loose begun) :=
  ⟨[], by simp [Spot.readAll, Spot.read, h], by simp [Spot.begun]⟩

/-- A break with a comma prints nothing that counts behind a token that goes on with neither. -/
theorem softComma {begun : List Char} (hblank : continues begun ' ' = false)
    (hcomma : continues begun ',' = false) (blanks : Nat) (offset : Int) :
    Prints (.tight begun) [.soft blanks offset ","] [] (.comma begun) :=
  ⟨[], by simp [Spot.readAll, Spot.read, hblank, hcomma], by simp [Spot.begun]⟩

/-- A word that is one token prints itself wherever it may stand. -/
theorem token {text : String} (hscan : scan [] text.toList = ([], text.toList))
    (hne : text.toList ≠ []) (hallows : spot.allows text) :
    Prints spot [.word text] [text] (.tight text.toList) := by
  apply of_allows hallows
  apply of_readAll
  · rw [Spot.readAll, Spot.read, hscan]
    rfl
  · cases htext : text.toList with
    | nil => exact absurd htext hne
    | cons c rest =>
      change [String.ofList (c :: rest)] = [text]
      rw [← htext, String.ofList_toList]

/-- An identifier prints itself wherever nothing goes on with the token that is begun. -/
theorem ident {name : String} (h : Identifier.isValid name) (hallows : spot.allows name) :
    Prints spot [.word name] [name] (.tight name.toList) := by
  obtain ⟨hscan, -, hne⟩ := scan_of_isValid h
  exact token hscan hne hallows

/-- An identifier prints itself where no token is begun. -/
theorem firstIdent {name : String} (h : Identifier.isValid name) :
    Prints (.tight []) [.word name] [name] (.tight name.toList) :=
  ident h (Spot.allows_ident name h)

/-- What begins with a mark prints the same behind a solid token. -/
theorem of_isSolid {begun : List Char} (hsolid : isSolid begun) {text : String}
    (hmark : text.toList.head?.any fun c => !Identifier.isContinue c && c != '#')
    (h : Prints (.tight []) (.word text :: pieces) tokens next) :
    Prints (.tight begun) (.word text :: pieces) tokens next :=
  of_allows (separates_of_isSolid hsolid hmark) h

end Prints

/-- The text of pieces has the tokens that they print, up to commas in front of closing marks. -/
theorem settle_tokens_print {pieces : List Piece} {printed : List String}
    (h : Prints (.tight []) pieces printed (.tight [])) :
    settle (tokens (print pieces)) = settle printed := by
  obtain ⟨found, hread, hprinted⟩ := h
  have hstart : (Spot.tight []).Matches [] State.start.due [] := .tight []
  have hsettle := settle_tokensFrom_printFrom hread hstart
  have hfound : printed = found := by simpa [finished, Spot.begun] using hprinted
  rw [tokens, print, String.toList_ofList, hfound]
  simpa [finished] using hsettle

end SdlCodegen.Layout
