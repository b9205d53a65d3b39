import Mathlib.Data.List.Chain
import SdlCodegen.Proofs.DocComment
import SdlCodegen.Sdl.StringLiteral

/-!
# Lines of a description

In the schema language a line ends with a line feed, a carriage return, or both in this order. A
documentation comment ends its lines with line feeds only. The two count the same lines exactly if
every carriage return in the text stands in front of a line feed or at the very end, and then the
comment has the lines of the text. Any other carriage return makes the comment too short.
-/

namespace SdlCodegen.Text

/-- The lines of a text by all line ends of the schema language. -/
def schemaLines (cs : List Char) : List (List Char) :=
  lines (Sdl.unifyLineEnds cs)

/-- Every carriage return stands in front of a line feed or at the end of the text. -/
def HasPairedReturns (cs : List Char) : Prop :=
  cs.IsChain fun c next => c = '\r' → next = '\n'

instance (cs : List Char) : Decidable (HasPairedReturns cs) :=
  inferInstanceAs (Decidable (cs.IsChain _))

/-- Put a character in front of the first line. -/
def consLine (c : Char) : List (List Char) → List (List Char)
  | [] => [[c]]
  | line :: others => (c :: line) :: others

/-- A line feed ends an empty line. -/
theorem lines_newline (rest : List Char) : lines ('\n' :: rest) = [] :: lines rest := by
  obtain ⟨first, others, hrest⟩ : ∃ first others, pieces '\n' rest = first :: others := ⟨_, _, rfl⟩
  have hcons : pieces '\n' ('\n' :: rest) = [] :: first :: others := by
    rw [← hrest]
    rfl
  rw [lines, lines, hcons, hrest, List.getLast?_cons_cons]
  split <;> rfl

/-- Any other character belongs to the first line. -/
theorem lines_cons {c : Char} (h : c ≠ '\n') (rest : List Char) :
    lines (c :: rest) = consLine c (lines rest) := by
  obtain ⟨first, others, hrest⟩ : ∃ first others, pieces '\n' rest = first :: others := ⟨_, _, rfl⟩
  have hcons : pieces '\n' (c :: rest) = (c :: first) :: others := by
    simp only [pieces, List.cons.injEq] at hrest
    simp only [pieces, cutAt, if_neg h, hrest.1, hrest.2]
  rw [lines, lines, hcons, hrest]
  cases others with
  | nil => cases first <;> rfl
  | cons second others =>
    rw [List.getLast?_cons_cons, List.getLast?_cons_cons]
    split <;> rfl

/-- A character in front of a first line makes a line of its own only if there was none. -/
theorem length_consLine (c : Char) (all : List (List Char)) :
    (consLine c all).length = max 1 all.length := by
  cases all with
  | nil => rfl
  | cons line others => simp [consLine]

/-- A text that is not empty has a line. -/
theorem length_lines_pos {cs : List Char} (h : cs ≠ []) : 0 < (lines cs).length := by
  cases cs with
  | nil => exact absurd rfl h
  | cons c rest =>
    by_cases hc : c = '\n'
    · rw [hc, lines_newline]
      exact Nat.succ_pos _
    · rw [lines_cons hc, length_consLine]
      omega

/-- What is left of lines behind a character depends on what is left of them without it. -/
theorem map_trimEnd_consLine {c : Char} {all other : List (List Char)}
    (h : all.map trimEnd = other.map trimEnd) :
    (consLine c all).map trimEnd = (consLine c other).map trimEnd := by
  cases all with
  | nil =>
    cases other with
    | nil => rfl
    | cons => cases h
  | cons line lines =>
    cases other with
    | nil => cases h
    | cons otherLine others =>
      rw [List.map_cons, List.map_cons, List.cons.injEq] at h
      simp only [consLine, List.map_cons, trimEnd, h.1, h.2]

/-- Every character of a line is one of the text. -/
theorem mem_of_mem_lines {cs line : List Char} {c : Char} (hline : line ∈ lines cs)
    (hc : c ∈ line) : c ∈ cs := by
  dsimp only [lines] at hline
  split at hline
  · exact mem_of_mem_pieces (List.dropLast_subset _ hline) hc
  · exact mem_of_mem_pieces hline hc

/-- Unified line ends have no carriage return. -/
theorem return_not_mem_unifyLineEnds (cs : List Char) : '\r' ∉ Sdl.unifyLineEnds cs := by
  induction cs using Sdl.unifyLineEnds.induct with
  | case1 => exact List.not_mem_nil
  | case2 rest ih => simpa [Sdl.unifyLineEnds] using ih
  | case3 rest hrest ih => simpa [Sdl.unifyLineEnds] using ih
  | case4 c rest _ hc ih =>
    rw [Sdl.unifyLineEnds, List.mem_cons, not_or]
    · exact ⟨fun h => hc h.symm, ih⟩
    all_goals assumption

/-- A line feed, or a carriage return in front of it, ends an empty line of the schema language. -/
theorem schemaLines_newline (rest : List Char) :
    schemaLines ('\n' :: rest) = [] :: schemaLines rest := by
  have hunify : Sdl.unifyLineEnds ('\n' :: rest) = '\n' :: Sdl.unifyLineEnds rest :=
    Sdl.unifyLineEnds.eq_4 '\n' rest (fun _ h => absurd h (by decide)) (by decide)
  rw [schemaLines, hunify, lines_newline]
  rfl

/-- A carriage return in front of a line feed is part of its line end. -/
theorem schemaLines_return_newline (rest : List Char) :
    schemaLines ('\r' :: '\n' :: rest) = [] :: schemaLines rest := by
  rw [schemaLines, Sdl.unifyLineEnds, lines_newline]
  rfl

/-- Any other carriage return is a line end as well. -/
theorem schemaLines_return {rest : List Char} (h : ∀ after, rest = '\n' :: after → False) :
    schemaLines ('\r' :: rest) = [] :: schemaLines rest := by
  rw [schemaLines, Sdl.unifyLineEnds.eq_3 rest h, lines_newline]
  rfl

/-- Any other character belongs to the first line of the schema language. -/
theorem schemaLines_cons {c : Char} (hreturn : c ≠ '\r') (hnewline : c ≠ '\n') (rest : List Char) :
    schemaLines (c :: rest) = consLine c (schemaLines rest) := by
  have hunify : Sdl.unifyLineEnds (c :: rest) = c :: Sdl.unifyLineEnds rest :=
    Sdl.unifyLineEnds.eq_4 c rest (fun _ h => absurd h hreturn) hreturn
  rw [schemaLines, hunify, lines_cons hnewline]
  rfl

/-- A character other than a carriage return may stand in front of anything. -/
theorem hasPairedReturns_cons {c : Char} (h : c ≠ '\r') {rest : List Char} :
    HasPairedReturns (c :: rest) ↔ HasPairedReturns rest := by
  unfold HasPairedReturns
  cases rest with
  | nil => simp
  | cons d rest => simp [h]

/-- A carriage return may stand in front of a line feed. -/
theorem hasPairedReturns_return_newline {rest : List Char} :
    HasPairedReturns ('\r' :: '\n' :: rest) ↔ HasPairedReturns rest := by
  have hrest : HasPairedReturns ('\n' :: rest) ↔ HasPairedReturns rest :=
    hasPairedReturns_cons (by decide)
  rw [← hrest]
  unfold HasPairedReturns
  rw [List.isChain_cons_cons]
  exact and_iff_right fun _ => rfl

/-- A carriage return that stands in front of no line feed has to be at the end. -/
theorem hasPairedReturns_return {rest : List Char} (h : ∀ after, rest = '\n' :: after → False) :
    HasPairedReturns ('\r' :: rest) ↔ rest = [] := by
  unfold HasPairedReturns
  cases rest with
  | nil => simp
  | cons d rest =>
    have hd : d ≠ '\n' := by
      rintro rfl
      exact h rest rfl
    simp [hd]

/-- With paired carriage returns, a comment has the lines of the text but for white
space at their ends. -/
theorem map_trimEnd_lines {cs : List Char} (h : HasPairedReturns cs) :
    (lines cs).map trimEnd = (schemaLines cs).map trimEnd := by
  induction cs using Sdl.unifyLineEnds.induct with
  | case1 => rfl
  | case2 rest ih =>
    have hrest := ih (hasPairedReturns_return_newline.mp h)
    rw [lines_cons (by decide), lines_newline, schemaLines_return_newline, consLine, List.map_cons,
      hrest]
    rfl
  | case3 rest hother =>
    rw [(hasPairedReturns_return hother).mp h]
    decide
  | case4 c rest _ hc ih =>
    have hrest := ih ((hasPairedReturns_cons hc).mp h)
    by_cases hnewline : c = '\n'
    · rw [hnewline, lines_newline, schemaLines_newline, List.map_cons, List.map_cons, hrest]
    · rw [lines_cons hnewline, schemaLines_cons hc hnewline, map_trimEnd_consLine hrest]

/-- Any other carriage return does not end a line of a comment though it ends one of the text. -/
theorem length_lines_lt {cs : List Char} (h : ¬ HasPairedReturns cs) :
    (lines cs).length < (schemaLines cs).length := by
  induction cs using Sdl.unifyLineEnds.induct with
  | case1 => exact absurd .nil h
  | case2 rest ih =>
    have hrest := ih (hasPairedReturns_return_newline.not.mp h)
    rw [lines_cons (by decide), lines_newline, schemaLines_return_newline]
    simpa [consLine] using hrest
  | case3 rest hother ih =>
    have hle : (lines rest).length ≤ (schemaLines rest).length := by
      by_cases hpaired : HasPairedReturns rest
      · have hlength := congrArg List.length (map_trimEnd_lines hpaired)
        rw [List.length_map, List.length_map] at hlength
        exact hlength.le
      · exact (ih hpaired).le
    have hpos := length_lines_pos ((hasPairedReturns_return hother).not.mp h)
    rw [lines_cons (by decide), schemaLines_return hother, length_consLine, List.length_cons]
    omega
  | case4 c rest _ hc ih =>
    have hpaired := (hasPairedReturns_cons hc).not.mp h
    have hrest := ih hpaired
    by_cases hnewline : c = '\n'
    · rw [hnewline, lines_newline, schemaLines_newline, List.length_cons, List.length_cons]
      omega
    · have hne : rest ≠ [] := by
        rintro rfl
        exact hpaired .nil
      have hpos := length_lines_pos hne
      rw [lines_cons hnewline, schemaLines_cons hc hnewline, length_consLine, length_consLine]
      omega

end SdlCodegen.Text

namespace SdlCodegen

/-- With paired carriage returns, a description has a comment line for each of its lines, and with
any other carriage return it has fewer. -/
theorem length_docLines_eq_iff {comment : String}
    (hblank : comment.toList.all Text.isBlank = false) :
    (docLines (some comment)).length = (Text.schemaLines comment.toList).length ↔
      Text.HasPairedReturns comment.toList := by
  rw [docLines, if_neg (by simp [hblank]), List.length_map]
  constructor
  · intro h
    by_contra hpaired
    exact absurd h (Text.length_lines_lt hpaired).ne
  · intro h
    simpa using congrArg List.length (Text.map_trimEnd_lines h)

/-- With paired carriage returns, the comment lines of a description hold its lines. -/
theorem docLines_eq_map_schemaLines {comment : String}
    (hblank : comment.toList.all Text.isBlank = false) (h : Text.HasPairedReturns comment.toList) :
    docLines (some comment) = (Text.schemaLines comment.toList).map docLine := by
  -- a comment line depends only on what is left of the line without white space at its end
  let write (kept : List Char) : String :=
    if kept.isEmpty then "///" else "/// " ++ String.ofList kept
  have hline : docLine = write ∘ Text.trimEnd := by
    funext line
    unfold docLine
    simp only [Function.comp_apply, write]
    split
    · next hkept => simp [hkept]
    · next hkept => cases hkept' : Text.trimEnd line <;> simp_all
  rw [docLines, if_neg (by simp [hblank]), hline, ← List.map_map, ← List.map_map,
    Text.map_trimEnd_lines h]

/-- A comment line for a line of the schema language has no carriage return. -/
theorem return_not_mem_docLine {cs line : List Char} (h : line ∈ Text.schemaLines cs) :
    '\r' ∉ (docLine line).toList := by
  have hline : '\r' ∉ Text.trimEnd line := fun hmem =>
    Text.return_not_mem_unifyLineEnds cs (Text.mem_of_mem_lines h (Text.mem_of_mem_trimEnd hmem))
  unfold docLine
  split
  · decide
  · rw [String.toList_append, List.mem_append, not_or]
    refine ⟨by decide, ?_⟩
    rwa [String.toList_ofList]

end SdlCodegen
