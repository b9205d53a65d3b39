import Mathlib.Tactic.SplitIfs
import SdlCodegen.DocComment
import SdlCodegen.Proofs.Text.Cut

/-!
# Lines of documentation comments

Whatever a description is, each of its comment lines begins with three slashes and
stays on one line.
-/

namespace SdlCodegen

namespace Text

/-- Dropping white space at the end adds no character. -/
theorem mem_of_mem_trimEnd {cs : List Char} {c : Char} (h : c ∈ trimEnd cs) : c ∈ cs := by
  induction cs with
  | nil => cases h
  | cons d rest ih =>
    simp only [trimEnd] at h
    split at h
    · split_ifs at h with hblank
      · cases h
      · exact List.mem_cons.mpr (Or.inl (List.mem_singleton.mp h))
    · rcases List.mem_cons.mp h with rfl | h
      · exact List.mem_cons_self
      · exact List.mem_cons_of_mem d (ih h)

/-- No line of a text holds a line feed. -/
theorem newline_not_mem_of_mem_lines {cs line : List Char} (h : line ∈ lines cs) : '\n' ∉ line := by
  dsimp only [lines] at h
  split at h
  · exact separator_not_mem_of_mem_pieces (List.dropLast_subset _ h)
  · exact separator_not_mem_of_mem_pieces h

end Text

/-- A comment line begins with three slashes and goes on without a line feed. -/
theorem exists_toList_of_mem_docLines {comment : Option String} {line : String}
    (h : line ∈ docLines comment) :
    ∃ cs, line.toList = '/' :: '/' :: '/' :: cs ∧ '\n' ∉ cs := by
  unfold docLines at h
  cases comment with
  | none => cases h
  | some text =>
    dsimp only at h
    split at h
    · cases h
    · obtain ⟨source, hsource, rfl⟩ := List.mem_map.mp h
      have hnone := Text.newline_not_mem_of_mem_lines hsource
      unfold docLine
      split
      · exact ⟨[], rfl, List.not_mem_nil⟩
      · next kept hkept =>
        refine ⟨' ' :: Text.trimEnd source, by simp, ?_⟩
        rw [List.mem_cons, not_or]
        exact ⟨by decide, fun hmem => hnone (Text.mem_of_mem_trimEnd hmem)⟩

end SdlCodegen
