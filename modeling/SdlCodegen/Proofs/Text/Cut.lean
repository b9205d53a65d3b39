import SdlCodegen.Text.Cut

/-!
# Pieces of a text

Cutting at a separator is the list function of that name, so joined pieces that do not hold the
separator are found again.
-/

namespace SdlCodegen.Text

/-- The pieces of a text are what the list function gives. -/
theorem pieces_eq_splitOn (separator : Char) (cs : List Char) :
    pieces separator cs = cs.splitOn separator := by
  induction cs with
  | nil => rfl
  | cons c rest ih =>
    rw [List.splitOn_cons_eq_if_modifyHead, ← ih]
    by_cases hc : c = separator
    · simp [pieces, cutAt, hc]
    · simp [pieces, cutAt, hc]

/-- Joined pieces are found again if none of them holds the separator. -/
theorem pieces_intercalate {separator : Char} {segments : List (List Char)} (hne : segments ≠ [])
    (h : ∀ segment ∈ segments, separator ∉ segment) :
    pieces separator (List.intercalate [separator] segments) = segments := by
  rw [pieces_eq_splitOn]
  exact List.splitOn_intercalate separator h hne

/-- Joining keeps the characters of every segment. -/
theorem mem_intercalate_of_mem {separator c : Char} {segments : List (List Char)}
    {segment : List Char} (hsegment : segment ∈ segments) (hc : c ∈ segment) :
    c ∈ List.intercalate [separator] segments := by
  induction segments with
  | nil => cases hsegment
  | cons first others ih =>
    cases others with
    | nil =>
      rw [List.intercalate_singleton]
      rwa [List.mem_singleton.mp hsegment] at hc
    | cons second others =>
      rw [List.intercalate_cons_cons]
      rcases List.mem_cons.mp hsegment with rfl | hothers
      · simp [hc]
      · exact List.mem_append_right _ (ih hothers)

/-- A change of characters may be made before or after joining. -/
theorem map_intercalate (f : Char → Char) (separator : Char) (segments : List (List Char)) :
    (List.intercalate [separator] segments).map f =
      List.intercalate [f separator] (segments.map (·.map f)) := by
  induction segments with
  | nil => rfl
  | cons segment segments ih =>
    cases segments with
    | nil => simp
    | cons other segments =>
      rw [List.intercalate_cons_cons, List.map_append, List.map_append, ih]
      simp only [List.map_cons, List.map_nil, List.intercalate_cons_cons]

/-- Every character of a piece is one of the text that is cut. -/
theorem mem_of_mem_pieces {separator c : Char} {cs piece : List Char}
    (hpiece : piece ∈ pieces separator cs) (hc : c ∈ piece) : c ∈ cs := by
  have hjoined := @mem_intercalate_of_mem separator _ _ _ hpiece hc
  rwa [intercalate_pieces] at hjoined

/-- No piece of a text holds the separator. -/
theorem separator_not_mem_of_mem_pieces {separator : Char} {cs piece : List Char}
    (hpiece : piece ∈ pieces separator cs) : separator ∉ piece := by
  induction cs generalizing piece with
  | nil =>
    simp only [pieces, cutAt, List.mem_singleton] at hpiece
    simp [hpiece]
  | cons c rest ih =>
    simp only [pieces, cutAt] at ih hpiece
    by_cases hc : c = separator
    · simp only [hc, ↓reduceIte, List.mem_cons] at hpiece
      rcases hpiece with rfl | hpiece
      · exact List.not_mem_nil
      · exact ih (List.mem_cons.mpr hpiece)
    · simp only [hc, ↓reduceIte, List.mem_cons] at hpiece
      rcases hpiece with rfl | hpiece
      · have hrest := ih List.mem_cons_self
        simp [hrest, Ne.symm hc]
      · exact ih (List.mem_cons_of_mem _ hpiece)

end SdlCodegen.Text
