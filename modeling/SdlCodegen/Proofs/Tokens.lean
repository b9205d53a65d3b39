import SdlCodegen.Identifier
import SdlCodegen.Text.Blank

/-!
# Tokens of the generated language

A text is cut into tokens from left to right, and every token is as long as it can be: a word, which
may be raw or a lifetime, a comment up to the end of its line, one of the joint marks `::` and `->`,
or any other single mark. Blanks and line ends only keep tokens apart. Numbers and quoted texts are
not told from words and marks, since generated code has none.

A comma directly in front of a closing mark is optional, and `settle` leaves it out.
-/

namespace SdlCodegen.Token

/-- Whether a character may begin a word. -/
def isWordStart (c : Char) : Bool :=
  Identifier.isContinue c || c == '\''

/-- Whether a character goes on with the token that is begun. -/
def continues (begun : List Char) (c : Char) : Bool :=
  match begun with
  | [] => false
  | '/' :: '/' :: _ => c != '\n'
  | ['/'] => c == '/'
  | [':'] => c == ':'
  | ['-'] => c == '>'
  | ['r'] => c == '#' || Identifier.isContinue c
  | first :: _ => isWordStart first && Identifier.isContinue c

/-- The token that is begun, if there is one. -/
def finished : List Char → List String
  | [] => []
  | begun => [String.ofList begun]

/-- The tokens that a text ends after a token that is begun, and the token that it leaves begun. -/
def scan (begun : List Char) : List Char → List String × List Char
  | [] => ([], begun)
  | c :: rest =>
    if continues begun c then scan (begun ++ [c]) rest
    else
      let (found, last) := scan (if Text.isBlank c then [] else [c]) rest
      (finished begun ++ found, last)

/-- The tokens of a text after a token that is begun. -/
def tokensFrom (begun : List Char) (cs : List Char) : List String :=
  (scan begun cs).1 ++ finished (scan begun cs).2

/-- The tokens of a text. -/
def tokens (text : String) : List String :=
  tokensFrom [] text.toList

/-- Whether a token is a closing mark that a comma may stand in front of. -/
def isClosing (token : String) : Bool :=
  token == ">" || token == ")" || token == "\x7d"

/-- Put a token in front of others, unless it is a comma in front of a closing mark. -/
def place (token : String) (others : List String) : List String :=
  if token = "," ∧ others.head?.any isClosing then others else token :: others

/-- Leave out every comma in front of a closing mark. -/
def settle (tokens : List String) : List String :=
  tokens.foldr place []

/-- Settling begins at the end of a sequence. -/
theorem settle_append (first second : List String) :
    settle (first ++ second) = first.foldr place (settle second) :=
  List.foldr_append

/-- Only the settled form of what follows matters. -/
theorem settle_append_congr (first : List String) {second other : List String}
    (h : settle second = settle other) : settle (first ++ second) = settle (first ++ other) := by
  rw [settle_append, settle_append, h]

/-- A comma in front of a closing mark does not matter. -/
theorem settle_comma {closing : String} (h : isClosing closing) (others : List String) :
    settle ("," :: closing :: others) = settle (closing :: others) := by
  have hclosing : closing ≠ "," := by
    intro heq
    subst heq
    exact absurd h (by decide)
  have hplace : settle (closing :: others) = closing :: settle others := by
    change place closing (settle others) = _
    rw [place, if_neg fun hcomma => hclosing hcomma.1]
  change place "," (settle (closing :: others)) = _
  rw [hplace, place, if_pos ⟨rfl, by simpa using h⟩]

example : settle (tokens "a::B<\n    r#type,\n    '_,\n> -> c // d, >") =
    ["a", "::", "B", "<", "r#type", ",", "'_", ">", "->", "c", "// d, >"] := by
  decide

/-- The end of a line ends every token. -/
theorem continues_newline (begun : List Char) : continues begun '\n' = false := by
  have hword : Identifier.isContinue '\n' = false := by decide
  unfold continues
  split <;> simp [hword]

/-- Texts are scanned one after the other. -/
theorem scan_append (begun first second : List Char) :
    scan begun (first ++ second) =
      ((scan begun first).1 ++ (scan (scan begun first).2 second).1,
        (scan (scan begun first).2 second).2) := by
  induction first generalizing begun with
  | nil => rfl
  | cons c rest ih =>
    rw [List.cons_append, scan, scan]
    by_cases hc : continues begun c
    · simp only [hc, ↓reduceIte, ih]
    · simp only [hc, Bool.false_eq_true, ↓reduceIte, ih, List.append_assoc]

/-- The tokens that a text ends come before those of the rest. -/
theorem tokensFrom_append (begun first second : List Char) :
    tokensFrom begun (first ++ second) =
      (scan begun first).1 ++ tokensFrom (scan begun first).2 second := by
  simp only [tokensFrom, scan_append, List.append_assoc]

/-- A token ends in front of a character that does not go on with it. -/
theorem tokensFrom_of_not_continues {begun : List Char} {c : Char}
    (h : continues begun c = false) (rest : List Char) :
    tokensFrom begun (c :: rest) = finished begun ++ tokensFrom [] (c :: rest) := by
  have hnone : continues [] c = false := rfl
  simp [tokensFrom, scan, h, hnone, finished]

/-- A blank that begins a text gives no token. -/
theorem tokensFrom_blank {c : Char} (h : Text.isBlank c) (rest : List Char) :
    tokensFrom [] (c :: rest) = tokensFrom [] rest := by
  have hnone : continues [] c = false := rfl
  simp [tokensFrom, scan, hnone, h, finished]

/-- The end of a line ends a token and gives none. -/
theorem tokensFrom_newline (begun rest : List Char) :
    tokensFrom begun ('\n' :: rest) = finished begun ++ tokensFrom [] rest := by
  rw [tokensFrom_of_not_continues (continues_newline begun), tokensFrom_blank (by decide)]

/-- Blanks that begin a text give no token. -/
theorem tokensFrom_blanks (count : Nat) (rest : List Char) :
    tokensFrom [] (List.replicate count ' ' ++ rest) = tokensFrom [] rest := by
  induction count with
  | zero => rfl
  | succ count ih =>
    rw [List.replicate_succ, List.cons_append, tokensFrom_blank (by decide), ih]

/-- Blanks may stand behind a token that goes on neither with a blank nor with what follows them. -/
theorem tokensFrom_due {begun : List Char} (hblank : continues begun ' ' = false) {c : Char}
    (hc : continues begun c = false) (due : Nat) (rest : List Char) :
    tokensFrom begun (List.replicate due ' ' ++ c :: rest) =
      finished begun ++ tokensFrom [] (c :: rest) := by
  cases due with
  | zero => exact tokensFrom_of_not_continues hc rest
  | succ due =>
    rw [List.replicate_succ, List.cons_append, tokensFrom_of_not_continues hblank,
      tokensFrom_blank (by decide), tokensFrom_blanks]

/-- A token that nothing goes on with ends where it is. -/
theorem tokensFrom_complete {begun : List Char} (h : ∀ c, continues begun c = false)
    (rest : List Char) : tokensFrom begun rest = finished begun ++ tokensFrom [] rest := by
  cases rest with
  | nil => simp [tokensFrom, scan, finished]
  | cons c rest => exact tokensFrom_of_not_continues (h c) rest

/-- A mark that is no beginning of a longer token is a token. -/
theorem tokensFrom_mark {c : Char} (hblank : Text.isBlank c = false)
    (hcomplete : ∀ d, continues [c] d = false) (rest : List Char) :
    tokensFrom [] (c :: rest) = String.singleton c :: tokensFrom [] rest := by
  have hbegin : tokensFrom [] (c :: rest) = tokensFrom [c] rest := by
    have hnone : continues [] c = false := rfl
    simp [tokensFrom, scan, hnone, hblank, finished]
  rw [hbegin, tokensFrom_complete hcomplete]
  rfl

/-- A comma at the beginning of a text is its first token. -/
theorem tokensFrom_comma (rest : List Char) :
    tokensFrom [] (',' :: rest) = "," :: tokensFrom [] rest := by
  have hword : isWordStart ',' = false := by decide
  exact tokensFrom_mark (by decide) (fun d => by simp [continues, hword]) rest

/-- A closing mark at the beginning of a text is its first token. -/
theorem tokensFrom_closing {c : Char} (h : isClosing (String.singleton c)) (rest : List Char) :
    tokensFrom [] (c :: rest) = String.singleton c :: tokensFrom [] rest := by
  have hmark : c = '>' ∨ c = ')' ∨ c = '\x7d' := by
    simpa [isClosing, String.ext_iff, or_assoc] using h
  have hword : isWordStart c = false := by
    rcases hmark with rfl | rfl | rfl <;> decide
  apply tokensFrom_mark
  · rcases hmark with rfl | rfl | rfl <;> decide
  · intro d
    rcases hmark with rfl | rfl | rfl <;> simp [continues, hword]

/-- Whether nothing but characters of words goes on with a token. -/
def isSolid (begun : List Char) : Bool :=
  begun.head?.all fun c => c != '/' && c != ':' && c != '-'

/-- A solid token ends in front of a character that no word has. -/
theorem continues_of_isSolid {begun : List Char} (h : isSolid begun) {c : Char}
    (hc : Identifier.isContinue c = false) (hraw : c ≠ '#') : continues begun c = false := by
  unfold continues
  split <;> simp_all [isSolid]

/-- Nothing goes on with a mark that begins no joint mark and no comment. -/
theorem continues_mark {c : Char} (hword : isWordStart c = false) (hsolid : isSolid [c])
    (d : Char) :
    continues [c] d = false := by
  unfold continues
  split <;> simp_all [isSolid]
  exact absurd hword (by decide)

/-- No character of words is blank. -/
theorem isBlank_of_isContinue {c : Char} (h : Identifier.isContinue c) :
    Text.isBlank c = false := by
  have hcodes :
      ∀ range ∈ Text.blankSet.ranges, ∀ code ∈ List.range' range.1 (range.2 + 1 - range.1),
      Identifier.isContinue (Char.ofNat code) = false := by
    decide +kernel
  cases hblank : Text.isBlank c with
  | false => rfl
  | true =>
    rw [Text.isBlank, Text.CharSet.contains, List.any_eq_true] at hblank
    obtain ⟨range, hrange, hbounds⟩ := hblank
    have hcode : c.toNat ∈ List.range' range.1 (range.2 + 1 - range.1) := by
      simp only [Bool.and_eq_true, decide_eq_true_eq] at hbounds
      rw [List.mem_range'_1]
      omega
    have hnone := hcodes range hrange c.toNat hcode
    rw [Char.ofNat_toNat, h] at hnone
    cases hnone

/-- A word goes on with every character of words. -/
theorem scan_word {first : Char} (hfirst : isWordStart first) (before : List Char) {cs : List Char}
    (h : ∀ c ∈ cs, Identifier.isContinue c) :
    scan (first :: before) cs = ([], first :: before ++ cs) := by
  have hmark : first ≠ '/' ∧ first ≠ ':' ∧ first ≠ '-' := by
    refine ⟨?_, ?_, ?_⟩ <;> rintro rfl <;> exact absurd hfirst (by decide)
  have hmore : ∀ before c, Identifier.isContinue c → continues (first :: before) c = true := by
    intro before c hc
    unfold continues
    split <;> simp_all
  induction cs generalizing before with
  | nil => simp [scan]
  | cons c cs ih =>
    rw [List.forall_mem_cons] at h
    rw [scan, if_pos (hmore before c h.1)]
    simpa using ih (before ++ [c]) h.2

/-- An identifier is one solid token. -/
theorem scan_of_isValid {name : String} (h : Identifier.isValid name) :
    scan [] name.toList = ([], name.toList) ∧ isSolid name.toList ∧ name.toList ≠ [] := by
  have hplain : ∀ {cs : List Char}, Identifier.isPlain cs → ∃ c rest, cs = c :: rest ∧
      Identifier.isContinue c ∧ ∀ d ∈ rest, Identifier.isContinue d := by
    intro cs hcs
    cases cs with
    | nil => cases hcs
    | cons c rest =>
      simp only [Identifier.isPlain, Bool.and_eq_true, List.all_eq_true] at hcs
      exact ⟨c, rest, rfl, by simp [Identifier.isContinue, hcs.1], hcs.2⟩
  have hbegin : ∀ {c : Char}, Identifier.isContinue c →
      ∀ rest, scan [] (c :: rest) = scan [c] rest := by
    intro c hc rest
    have hnone : continues [] c = false := rfl
    simp [scan, hnone, isBlank_of_isContinue hc, finished]
  unfold Identifier.isValid at h
  split at h
  · next raw hraw =>
    simp only [Bool.and_eq_true] at h
    obtain ⟨c, rest, rfl, hc, hrest⟩ := hplain h.1
    have hwhole : scan [] ('r' :: '#' :: c :: rest) = scan ['r', '#'] (c :: rest) := rfl
    rw [hraw, hwhole, scan_word (by decide) ['#'] (List.forall_mem_cons.mpr ⟨hc, hrest⟩)]
    exact ⟨rfl, rfl, List.cons_ne_nil _ _⟩
  · obtain ⟨c, rest, hname, hc, hrest⟩ := hplain h
    have hfirst : isWordStart c := by simp [isWordStart, hc]
    rw [hname, hbegin hc, scan_word hfirst [] hrest]
    refine ⟨rfl, ?_, List.cons_ne_nil _ _⟩
    simp only [isSolid, List.head?_cons, Option.all_some, Bool.and_eq_true, bne_iff_ne]
    refine ⟨⟨?_, ?_⟩, ?_⟩ <;> rintro rfl <;> revert hc <;> decide

/-- A comment up to the end of its line is one token. -/
theorem scan_comment {cs : List Char} (h : '\n' ∉ cs) :
    scan [] ('/' :: '/' :: cs) = ([], '/' :: '/' :: cs) := by
  have hmore : ∀ before, scan ('/' :: '/' :: before) cs = ([], '/' :: '/' :: (before ++ cs)) := by
    induction cs with
    | nil => intro before; simp [scan]
    | cons c cs ih =>
      intro before
      rw [List.mem_cons, not_or] at h
      have hc : continues ('/' :: '/' :: before) c = true := by
        simpa [continues] using fun heq : c = '\n' => h.1 heq.symm
      rw [scan, if_pos hc]
      simpa using ih h.2 (before ++ [c])
  exact hmore []

end SdlCodegen.Token
