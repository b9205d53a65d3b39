/-!
# Cutting a text at a separator

A text without the separator is one piece, and every separator adds a piece, so the first piece
always exists. Joining the pieces with the separator gives the text back.
-/

namespace SdlCodegen.Text

/-- Cut at every separator, which is dropped: the first piece and the pieces after it. -/
def cutAt (separator : Char) : List Char → List Char × List (List Char)
  | [] => ([], [])
  | c :: rest =>
    let (piece, pieces) := cutAt separator rest
    if c = separator then ([], piece :: pieces) else (c :: piece, pieces)

/-- All pieces of a text between separators. -/
def pieces (separator : Char) (cs : List Char) : List (List Char) :=
  let (first, others) := cutAt separator cs
  first :: others

/-- Joining the pieces with the separator gives the text back. -/
theorem intercalate_pieces (separator : Char) (cs : List Char) :
    List.intercalate [separator] (pieces separator cs) = cs := by
  induction cs with
  | nil => rfl
  | cons c rest ih =>
    simp only [pieces] at ih ⊢
    rw [cutAt]
    by_cases h : c = separator
    · simp [h, List.intercalate_cons_cons, ih]
    · cases hrest : (cutAt separator rest).2 with
      | nil => simp_all [List.intercalate_singleton]
      | cons piece others => simp_all [List.intercalate_cons_cons]

end SdlCodegen.Text
