import Mathlib
import SdlCodegen.Text.Lowercase
import SdlCodegen.Proofs.Text.Cut

/-!
# Small letters

A text in small letters has no ASCII capital, and its underscores are those of the text. An
underscore is neither a letter nor passed over by the final-sigma rule, so what stands on one
side of it has no influence on the other side: a text may be lower-cased piece by piece
between its underscores.
-/

namespace SdlCodegen.Text

/-- The capitals of ASCII by their codes. -/
theorem isUpper_iff_toNat {c : Char} : c.isUpper ↔ 65 ≤ c.toNat ∧ c.toNat ≤ 90 := by
  simp only [Char.isUpper, decide_eq_true_eq, ge_iff_le, UInt32.le_iff_toNat_le]
  exact Iff.rfl

/-- The small form of a character of ASCII is one. -/
theorem toNat_toLower_lt {c : Char} (h : c.toNat < 128) : c.toLower.toNat < 128 := by
  by_cases hupper : c.isUpper
  · have hlast := (isUpper_iff_toNat.mp hupper).2
    rw [Char.toLower_eq_of_isUpper hupper, Char.toNat_ofNat]
    split <;> omega
  · rwa [Char.toLower_eq_of_not_isUpper hupper]

/-- The capital for a character of ASCII is one. -/
theorem toNat_toUpper_lt {c : Char} (h : c.toNat < 128) : c.toUpper.toNat < 128 := by
  by_cases hlower : c.isLower
  · rw [Char.toUpper_eq_of_isLower hlower, Char.toNat_ofNat]
    split <;> omega
  · rwa [Char.toUpper_eq_of_not_isLower hlower]

/-- Only the underscore becomes one in small letters. -/
theorem toLower_eq_underscore_iff (c : Char) : c.toLower = '_' ↔ c = '_' := by
  by_cases hupper : c.isUpper
  · have hletter : c.toLower.isAlpha := by simp [Char.isAlpha, hupper]
    refine iff_of_false ?_ ?_
    · intro heq
      rw [heq] at hletter
      exact absurd hletter (by decide)
    · rintro rfl
      exact absurd hupper (by decide)
  · rw [Char.toLower_eq_of_not_isUpper hupper]

/-- Only the underscore becomes one in capitals. -/
theorem toUpper_eq_underscore_iff (c : Char) : c.toUpper = '_' ↔ c = '_' := by
  rw [← toLower_eq_underscore_iff, Char.toLower_toUpper_eq_toLower, toLower_eq_underscore_iff]

/-- A text without capitals stays as it is. -/
theorem map_toLower_eq_self {cs : List Char} (h : ∀ c ∈ cs, ¬ c.isUpper) :
    cs.map Char.toLower = cs := by
  rw [List.map_congr_left fun c hc => Char.toLower_eq_of_not_isUpper (h c hc), List.map_id']

/-- A text is in capitals exactly if it has no small letters. -/
theorem map_toUpper_eq_self_iff {cs : List Char} :
    cs.map Char.toUpper = cs ↔ ∀ c ∈ cs, ¬ c.isLower := by
  constructor
  · intro h c hc
    rw [← h] at hc
    obtain ⟨d, -, rfl⟩ := List.mem_map.mp hc
    simp
  · intro h
    rw [List.map_congr_left fun c hc => Char.toUpper_eq_of_not_isLower (h c hc), List.map_id']

/-- All small letters that the table gives have codes behind the last mark in front of the small
`a`. -/
theorem target_of_mem_caseRows {row : CaseRow} (h : row ∈ caseRows) : 0x60 < row.target := by
  have hall : ∀ row ∈ caseRows, 0x60 < row.target := by decide +kernel
  exact hall row h

/-- With a code behind that mark there is no ASCII capital and no underscore. -/
theorem ofNat_of_lt {code : Nat} (h : 0x60 < code) :
    ¬ (Char.ofNat code).isUpper ∧ Char.ofNat code ≠ '_' := by
  -- a code without a character stands for the character with code zero
  have hcode : (Char.ofNat code).toNat = code ∨ (Char.ofNat code).toNat = 0 := by
    rw [Char.toNat_ofNat]
    exact ite_eq_or_eq _ _ _
  constructor
  · rw [isUpper_iff_toNat]
    omega
  · intro heq
    rw [heq] at hcode
    have hmark : '_'.toNat = 95 := rfl
    omega

/-- The small form of a character has no ASCII capital, and an underscore only if the
character is one. -/
theorem of_mem_lowerChar {c d : Char} (h : d ∈ lowerChar c) :
    ¬ d.isUpper ∧ (d = '_' → c = '_') := by
  unfold lowerChar at h
  split at h
  · rw [List.mem_singleton.mp h]
    exact ⟨by simp, (toLower_eq_underscore_iff c).mp⟩
  · next hascii =>
    split at h
    · simp only [List.mem_cons, List.not_mem_nil, or_false] at h
      rcases h with rfl | rfl
      · exact ⟨by decide, fun heq => absurd heq (by decide)⟩
      · exact ⟨by decide, fun heq => absurd heq (by decide)⟩
    · split at h
      · next row hrow =>
        have htarget := target_of_mem_caseRows (List.mem_of_find?_eq_some hrow)
        have hcode := ofNat_of_lt (Nat.lt_add_right (c.toNat - row.first) htarget)
        rw [List.mem_singleton.mp h]
        exact ⟨hcode.1, fun heq => absurd heq hcode.2⟩
      · rw [List.mem_singleton.mp h, isUpper_iff_toNat]
        exact ⟨by omega, id⟩

/-- Every character of a text in small letters is of the small form of one of its
characters, or a sigma. -/
theorem exists_of_mem_lowercaseAfter {before cs : List Char} {d : Char}
    (h : d ∈ lowercaseAfter before cs) : ∃ c ∈ cs, d ∈ lowerChar c ∨ d = 'ς' ∨ d = 'σ' := by
  induction cs generalizing before with
  | nil => cases h
  | cons c rest ih =>
    rw [lowercaseAfter, List.mem_append] at h
    rcases h with hfirst | hrest
    · refine ⟨c, List.mem_cons_self, ?_⟩
      split at hfirst
      · rw [List.mem_singleton.mp hfirst, lowerSigma]
        exact .inr (ite_eq_or_eq _ _ _)
      · exact .inl hfirst
    · obtain ⟨e, he, hd⟩ := ih hrest
      exact ⟨e, List.mem_cons_of_mem c he, hd⟩

/-- A text in small letters has no ASCII capital. -/
theorem not_isUpper_of_mem_lowercase {cs : List Char} {d : Char} (h : d ∈ lowercase cs) :
    ¬ d.isUpper := by
  obtain ⟨c, -, hd | rfl | rfl⟩ := exists_of_mem_lowercaseAfter h
  · exact (of_mem_lowerChar hd).1
  · decide
  · decide

/-- No underscore comes into a text in small letters. -/
theorem underscore_not_mem_lowercase {cs : List Char} (h : '_' ∉ cs) : '_' ∉ lowercase cs := by
  intro hmem
  obtain ⟨c, hc, hd | heq | heq⟩ := exists_of_mem_lowercaseAfter hmem
  · have hmark := (of_mem_lowerChar hd).2 rfl
    subst hmark
    exact h hc
  · exact absurd heq (by decide)
  · exact absurd heq (by decide)

/-- Lower-casing a text of ASCII takes each character by itself. -/
theorem lowercase_eq_map {cs : List Char} (h : ∀ c ∈ cs, c.toNat < 128) :
    lowercase cs = cs.map Char.toLower := by
  have hafter : ∀ before, lowercaseAfter before cs = cs.map Char.toLower := by
    induction cs with
    | nil => intro before; rfl
    | cons c rest ih =>
      intro before
      rw [List.forall_mem_cons] at h
      have hsigma : c ≠ 'Σ' := by
        intro heq
        subst heq
        exact absurd h.1 (by decide)
      rw [lowercaseAfter, ih h.2, if_neg hsigma, lowerChar, if_pos h.1]
      rfl
  exact hafter []

/-- The search for a cased letter ends at an underscore. -/
theorem meetsCased_append_underscore (cs rest : List Char) :
    meetsCased (cs ++ '_' :: rest) = meetsCased cs := by
  have hignorable : caseIgnorableSet.contains '_' = false := by decide +kernel
  have hcased : casedSet.contains '_' = false := by decide +kernel
  induction cs with
  | nil => simp [meetsCased, hignorable, hcased]
  | cons c cs ih =>
    rw [meetsCased, meetsCased] at ih ⊢
    rw [List.cons_append]
    by_cases hskip : caseIgnorableSet.contains c
    · rw [List.dropWhile_cons_of_pos hskip, List.dropWhile_cons_of_pos hskip]
      exact ih
    · rw [List.dropWhile_cons_of_neg hskip, List.dropWhile_cons_of_neg hskip]

/-- What stands before an underscore has no influence on what follows it. -/
theorem lowercaseAfter_append_underscore (near before cs : List Char) :
    lowercaseAfter (near ++ '_' :: before) cs = lowercaseAfter near cs := by
  induction cs generalizing near with
  | nil => rfl
  | cons c rest ih =>
    rw [lowercaseAfter, lowercaseAfter, ← List.cons_append, ih (c :: near), lowerSigma, lowerSigma,
      meetsCased_append_underscore]

/-- What follows an underscore has no influence on what stands before it. -/
theorem lowercase_append_underscore (cs rest : List Char) :
    lowercase (cs ++ '_' :: rest) = lowercase cs ++ '_' :: lowercase rest := by
  have hafter : ∀ before, lowercaseAfter before (cs ++ '_' :: rest) =
      lowercaseAfter before cs ++ '_' :: lowercase rest := by
    induction cs with
    | nil =>
      intro before
      change lowerChar '_' ++ lowercaseAfter ([] ++ '_' :: before) rest = _
      rw [lowercaseAfter_append_underscore]
      rfl
    | cons c cs ih =>
      intro before
      rw [List.cons_append, lowercaseAfter, lowercaseAfter, ih (c :: before), lowerSigma,
        lowerSigma, meetsCased_append_underscore, List.append_assoc]
  exact hafter []

/-- A text is lower-cased piece by piece between its underscores. -/
theorem flatMap_lowercase_pieces (cs : List Char) :
    (pieces '_' cs).flatMap ('_' :: lowercase ·) = '_' :: lowercase cs := by
  have hsegments : ∀ segments : List (List Char), segments ≠ [] →
      segments.flatMap ('_' :: lowercase ·) =
        '_' :: lowercase (List.intercalate ['_'] segments) := by
    intro segments hne
    induction segments with
    | nil => exact absurd rfl hne
    | cons segment segments ih =>
      cases segments with
      | nil => simp
      | cons other segments =>
        rw [List.flatMap_cons, ih (List.cons_ne_nil _ _), List.intercalate_cons_cons,
          List.append_assoc, List.singleton_append, lowercase_append_underscore, List.cons_append]
  have hpieces : pieces '_' cs ≠ [] := List.cons_ne_nil _ _
  rw [hsegments _ hpieces, intercalate_pieces]

end SdlCodegen.Text
