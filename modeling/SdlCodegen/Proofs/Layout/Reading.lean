import Mathlib.Tactic.SplitIfs
import SdlCodegen.Layout
import SdlCodegen.Proofs.Tokens

/-!
# Tokens of a layout

Pieces of code have tokens of their own, whatever the layout decides. A reader goes over the pieces
and keeps the token that is begun, together with what a break since then may have done: nothing,
ended the token, or written a comma behind it. It accepts a word after a break only if the word does
not go on with the token that is begun, and after a break with a comma only if it begins with a
closing mark. The text of pieces that are accepted has the tokens that the reader finds, in every
state of the printer and so for every width, up to commas in front of closing marks.
-/

namespace SdlCodegen.Layout

open Token

/-- Where a reader of pieces is: behind a token that is begun, and behind a break since then or
not. -/
inductive Spot where
  /-- No break since the token was begun. -/
  | tight (begun : List Char)
  /-- A break that may have ended the token. -/
  | loose (begun : List Char)
  /-- A break that may have ended the token and written a comma. -/
  | comma (begun : List Char)
  deriving DecidableEq, Repr

/-- The mark of a closing bracket that a word begins with. -/
def closingMark? (text : String) : Option Char :=
  text.toList.head?.filter fun c => isClosing (String.singleton c)

/-- Whether a word begins with a character that does not go on with the token that is begun. -/
def separates (begun : List Char) (text : String) : Bool :=
  text.toList.head?.any fun c => !continues begun c

/-- The tokens that a piece ends at a spot, and the spot behind it, unless they depend on the
layout. -/
def Spot.read : Spot → Piece → Option (List String × Spot)
  | tight begun, .word text =>
    some ((scan begun text.toList).1, tight (scan begun text.toList).2)
  | loose begun, .word text =>
    if separates begun text then
      some (finished begun ++ (scan [] text.toList).1, tight (scan [] text.toList).2)
    else none
  | comma begun, .word text =>
    if separates begun text ∧ (closingMark? text).isSome then
      some (finished begun ++ (scan [] text.toList).1, tight (scan [] text.toList).2)
    else none
  | tight begun, .soft _ _ last =>
    if continues begun ' ' then none
    else if last.isEmpty then some ([], loose begun)
    else if last = "," ∧ continues begun ',' = false then some ([], comma begun)
    else none
  | tight begun, .line _ => some (finished begun, tight [])
  | loose _, .soft .. | loose _, .line _ | comma _, .soft .. | comma _, .line _ => none
  | spot, .seam | spot, .boxStart _ | spot, .boxEnd => some ([], spot)

/-- The tokens that pieces end from a spot on, and the spot behind them. -/
def Spot.readAll (spot : Spot) : List Piece → Option (List String × Spot)
  | [] => some ([], spot)
  | piece :: pieces => do
    let (found, next) ← spot.read piece
    let (others, last) ← next.readAll pieces
    return (found ++ others, last)

/-- Pieces are read one by one. -/
theorem Spot.readAll_cons {spot last : Spot} {piece : Piece} {pieces : List Piece}
    {found : List String} :
    spot.readAll (piece :: pieces) = some (found, last) ↔
      ∃ here next later, spot.read piece = some (here, next) ∧
        next.readAll pieces = some (later, last) ∧ here ++ later = found := by
  simp [readAll, Option.bind_eq_some_iff]

/-- Where the text that is printed so far stands against a spot: the token that is really begun, the
blanks that are due, and the tokens that were ended since the token of the spot was begun. -/
inductive Spot.Matches : Spot → List Char → Nat → List String → Prop where
  /-- No blank is due behind the token that is begun. -/
  | tight (begun : List Char) : (tight begun).Matches begun 0 []
  /-- Blanks may be due where no token is begun. -/
  | fresh (due : Nat) : (tight []).Matches [] due []
  /-- A break has not ended the line. -/
  | fitting (begun : List Char) (due : Nat) (h : continues begun ' ' = false) :
    (loose begun).Matches begun due []
  /-- A break has ended the line. -/
  | broken (begun : List Char) (due : Nat) (h : continues begun ' ' = false) :
    (loose begun).Matches [] due (finished begun)
  /-- A break has not ended the line and has written no comma. -/
  | fittingComma (begun : List Char) (due : Nat) (h : continues begun ' ' = false) :
    (comma begun).Matches begun due []
  /-- A break has written a comma and ended the line. -/
  | brokenComma (begun : List Char) (due : Nat) (h : continues begun ' ' = false) :
    (comma begun).Matches [] due (finished begun ++ [","])

/-- A word after a break begins with a character that does not go on with the token before it. -/
theorem exists_cons_of_separates {begun : List Char} {text : String} (h : separates begun text) :
    ∃ c cs, text.toList = c :: cs ∧ continues begun c = false := by
  cases htext : text.toList with
  | nil => simp [separates, htext] at h
  | cons c cs => exact ⟨c, cs, rfl, by simpa [separates, htext] using h⟩

/-- A word has the tokens that a reader finds in it, wherever the printer stands. -/
theorem settle_tokensFrom_word {spot next : Spot} {text : String} {found : List String}
    (hread : spot.read (.word text) = some (found, next)) {begun : List Char} {due : Nat}
    {ended : List String} (hmatch : spot.Matches begun due ended) (rest : List Char) :
    ∃ last, next = .tight last ∧
      settle (ended ++ tokensFrom begun (List.replicate due ' ' ++ text.toList ++ rest)) =
        settle (found ++ tokensFrom last rest) := by
  have hscan : tokensFrom [] (text.toList ++ rest) =
      (scan [] text.toList).1 ++ tokensFrom (scan [] text.toList).2 rest :=
    tokensFrom_append [] text.toList rest
  cases hmatch with
  | tight begun =>
    cases hread
    exact ⟨_, rfl, by simp [tokensFrom_append]⟩
  | fresh due =>
    cases hread
    refine ⟨_, rfl, ?_⟩
    rw [List.append_assoc, tokensFrom_blanks, hscan, List.nil_append]
  | fitting begun due hblank =>
    simp only [Spot.read, Option.ite_none_right_eq_some, Option.some.injEq, Prod.mk.injEq] at hread
    obtain ⟨hseparates, rfl, rfl⟩ := hread
    obtain ⟨c, cs, htext, hc⟩ := exists_cons_of_separates hseparates
    refine ⟨_, rfl, ?_⟩
    rw [List.append_assoc, List.append_assoc, ← hscan, htext, List.cons_append,
      tokensFrom_due hblank hc, List.nil_append]
  | broken begun due hblank =>
    simp only [Spot.read, Option.ite_none_right_eq_some, Option.some.injEq, Prod.mk.injEq] at hread
    obtain ⟨-, rfl, rfl⟩ := hread
    refine ⟨_, rfl, ?_⟩
    rw [List.append_assoc, List.append_assoc, ← hscan, tokensFrom_blanks]
  | fittingComma begun due hblank =>
    simp only [Spot.read, Option.ite_none_right_eq_some, Option.some.injEq, Prod.mk.injEq] at hread
    obtain ⟨⟨hseparates, -⟩, rfl, rfl⟩ := hread
    obtain ⟨c, cs, htext, hc⟩ := exists_cons_of_separates hseparates
    refine ⟨_, rfl, ?_⟩
    rw [List.append_assoc, List.append_assoc, ← hscan, htext, List.cons_append,
      tokensFrom_due hblank hc, List.nil_append]
  | brokenComma begun due hblank =>
    simp only [Spot.read, Option.ite_none_right_eq_some, Option.some.injEq, Prod.mk.injEq] at hread
    obtain ⟨⟨hseparates, hclosing⟩, rfl, rfl⟩ := hread
    obtain ⟨c, cs, htext, hc⟩ := exists_cons_of_separates hseparates
    have hmark : isClosing (String.singleton c) := by
      simpa [closingMark?, htext, Option.isSome_filter] using hclosing
    refine ⟨_, rfl, ?_⟩
    rw [List.append_assoc, List.append_assoc, List.append_assoc, ← hscan, tokensFrom_blanks, htext]
    change settle (finished begun ++ "," :: tokensFrom [] (c :: (cs ++ rest))) =
      settle (finished begun ++ tokensFrom [] (c :: (cs ++ rest)))
    rw [tokensFrom_closing hmark]
    exact settle_append_congr (finished begun) (settle_comma hmark (tokensFrom [] (cs ++ rest)))

/-- Where no break has been, the token of the spot is the one that is begun. -/
theorem Spot.Matches.of_tight {begun actual : List Char} {due : Nat} {ended : List String}
    (hmatch : (Spot.tight begun).Matches actual due ended) : actual = begun ∧ ended = [] := by
  cases hmatch <;> exact ⟨rfl, rfl⟩

/-- Only where no break has been, a break is read. -/
theorem Spot.read_soft_eq_some {spot next : Spot} {blanks : Nat} {offset : Int} {mark : String}
    {found : List String} (hread : spot.read (.soft blanks offset mark) = some (found, next)) :
    ∃ begun, spot = tight begun ∧ continues begun ' ' = false ∧ found = [] ∧
      (mark = "" ∧ next = loose begun ∨
        mark = "," ∧ continues begun ',' = false ∧ next = comma begun) := by
  cases spot with
  | tight begun =>
    simp only [read] at hread
    split_ifs at hread with hblank hempty hcomma
    · cases hread
      exact ⟨begun, rfl, by simpa using hblank, rfl, Or.inl ⟨by simpa using hempty, rfl⟩⟩
    · cases hread
      exact ⟨begun, rfl, by simpa using hblank, rfl, Or.inr ⟨hcomma.1, hcomma.2, rfl⟩⟩
  | loose begun => cases hread
  | comma begun => cases hread

/-- A piece that writes nothing is read without effect. -/
theorem Spot.read_mark_eq_some {spot next : Spot} {piece : Piece} {found : List String}
    (hpiece : piece = .seam ∨ (∃ indent, piece = .boxStart indent) ∨ piece = .boxEnd)
    (hread : spot.read piece = some (found, next)) : found = [] ∧ next = spot := by
  rcases hpiece with rfl | ⟨indent, rfl⟩ | rfl <;> cases spot <;> cases hread <;> exact ⟨rfl, rfl⟩

/-- A break that ends the line leads to a spot that matches. -/
theorem exists_matches_broken {begun : List Char} {next : Spot} {mark : String}
    (hblank : continues begun ' ' = false)
    (hnext : mark = "" ∧ next = .loose begun ∨
      mark = "," ∧ continues begun ',' = false ∧ next = .comma begun) (due later : Nat)
    (rest : List Char) :
    ∃ ended, next.Matches [] later ended ∧
      tokensFrom begun
          ((if mark.isEmpty then [] else List.replicate due ' ' ++ mark.toList) ++ '\n' :: rest) =
        ended ++ tokensFrom [] rest := by
  rcases hnext with ⟨rfl, rfl⟩ | ⟨rfl, hcomma, rfl⟩
  · exact ⟨finished begun, .broken begun later hblank, tokensFrom_newline begun rest⟩
  · refine ⟨finished begun ++ [","], .brokenComma begun later hblank, ?_⟩
    change tokensFrom begun ((List.replicate due ' ' ++ [',']) ++ '\n' :: rest) = _
    rw [List.append_assoc, List.singleton_append, tokensFrom_due hblank hcomma, tokensFrom_comma,
      tokensFrom_newline, List.append_assoc]
    rfl

/-- Entering a box writes nothing. -/
theorem State.due_enter (state : State) (indent : Int) (rest : List Piece) :
    (state.enter indent rest).due = state.due := by
  unfold enter
  split <;> rfl

/-- Leaving a box writes nothing. -/
theorem State.due_leave (state : State) : state.leave.due = state.due := by
  unfold leave
  split <;> rfl

/-- The text of pieces has the tokens that a reader finds in them, wherever the printer stands. -/
theorem settle_tokensFrom_printFrom {pieces : List Piece} {spot : Spot} {found : List String}
    {last : List Char} (hread : spot.readAll pieces = some (found, .tight last)) {state : State}
    {begun : List Char} {ended : List String} (hmatch : spot.Matches begun state.due ended) :
    settle (ended ++ tokensFrom begun (printFrom state pieces)) =
      settle (found ++ finished last) := by
  -- the spot says nothing of the width, so every decision of the printer leads to a
  -- state that matches
  induction pieces generalizing spot found state begun ended with
  | nil =>
    cases hread
    obtain ⟨rfl, rfl⟩ := hmatch.of_tight
    rfl
  | cons piece pieces ih =>
    obtain ⟨first, next, others, hpiece, hothers, rfl⟩ := Spot.readAll_cons.mp hread
    rw [List.append_assoc]
    cases piece with
    | word text =>
      obtain ⟨middle, rfl, hword⟩ :=
        settle_tokensFrom_word hpiece hmatch (printFrom (state.write text) pieces)
      rw [printFrom, hword]
      have hrest : (Spot.tight middle).Matches middle (state.write text).due [] := .tight middle
      exact settle_append_congr first (ih hothers hrest)
    | soft blanks offset mark =>
      obtain ⟨begun, rfl, hblank, rfl, hnext⟩ := Spot.read_soft_eq_some hpiece
      obtain ⟨rfl, rfl⟩ := hmatch.of_tight
      rw [printFrom]
      split
      · have hfitting : ∀ due, next.Matches begun due [] := by
          rcases hnext with ⟨-, rfl⟩ | ⟨-, -, rfl⟩
          · exact fun due => .fitting begun due hblank
          · exact fun due => .fittingComma begun due hblank
        exact ih hothers (hfitting _)
      · obtain ⟨ended, hended, htokens⟩ := exists_matches_broken hblank hnext state.due
          (state.nextLine offset).due (printFrom (state.nextLine offset) pieces)
        rw [List.nil_append, htokens]
        exact ih hothers hended
    | line offset =>
      cases spot with
      | tight begun =>
        cases hpiece
        obtain ⟨rfl, rfl⟩ := hmatch.of_tight
        rw [printFrom, List.nil_append, tokensFrom_newline]
        have hrest : (Spot.tight []).Matches [] (state.nextLine offset).due [] := .fresh _
        exact settle_append_congr _ (ih hothers hrest)
      | loose begun => cases hpiece
      | comma begun => cases hpiece
    | seam =>
      obtain ⟨rfl, rfl⟩ := Spot.read_mark_eq_some (Or.inl rfl) hpiece
      exact ih hothers hmatch
    | boxStart indent =>
      obtain ⟨rfl, rfl⟩ := Spot.read_mark_eq_some (Or.inr (Or.inl ⟨indent, rfl⟩)) hpiece
      rw [← State.due_enter state indent pieces] at hmatch
      exact ih hothers hmatch
    | boxEnd =>
      obtain ⟨rfl, rfl⟩ := Spot.read_mark_eq_some (Or.inr (Or.inr rfl)) hpiece
      rw [← State.due_leave state] at hmatch
      exact ih hothers hmatch

end SdlCodegen.Layout
