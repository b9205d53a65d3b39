import SdlCodegen.Proofs.Naming

/-!
# Capitals for marked letters

The opposite of marking capitals: an underscore in front of a letter is dropped and the letter
becomes a capital, all other characters stay. On texts without capitals nothing gets lost by this,
and a text whose capitals have been marked is found again unless one of its own underscores stands
in front of a small letter.

The name of a variant is made in this way from the whole name, in small letters and behind one
underscore more, though its words are in fact cut apart and put into small letters one by one.
-/

namespace SdlCodegen

/-- The capital for a small letter is marked by that letter. -/
theorem snakeChar_toUpper {c : Char} (h : c.isLower) : snakeChar c.toUpper = ['_', c] := by
  have hupper : c.toUpper.isUpper := by
    rw [Char.isUpper_toUpper_eq_isAlpha, Char.isAlpha, h, Bool.or_true]
  rw [snakeChar, if_pos hupper, Char.toLower_toUpper_eq_toLower,
    Char.toLower_eq_of_not_isUpper (Char.not_isUpper_of_isLower h)]

/-- No capitals are left where they are marked. -/
theorem not_isUpper_of_mem_flatMap_snakeChar {cs : List Char} {c : Char}
    (h : c ∈ cs.flatMap snakeChar) :
    ¬ c.isUpper := by
  obtain ⟨d, -, hc⟩ := List.mem_flatMap.mp h
  by_cases hupper : d.isUpper
  · simp only [snakeChar, hupper, ↓reduceIte, List.mem_cons, List.not_mem_nil, or_false] at hc
    rcases hc with rfl | rfl
    · decide
    · simp
  · simp only [snakeChar, hupper, Bool.false_eq_true, ↓reduceIte, List.mem_singleton] at hc
    rwa [hc]

/-- Drop every underscore that a letter follows and capitalise this letter. -/
def capitalizeMarked : List Char → List Char
  | [] => []
  | [c] => [c]
  | c :: d :: rest =>
    if c = '_' ∧ d.isAlpha then d.toUpper :: capitalizeMarked rest
    else c :: capitalizeMarked (d :: rest)

/-- Any character but an underscore stays. -/
theorem capitalizeMarked_cons_of_ne {c : Char} (h : c ≠ '_') (rest : List Char) :
    capitalizeMarked (c :: rest) = c :: capitalizeMarked rest := by
  cases rest with
  | nil => rfl
  | cons d rest => rw [capitalizeMarked, if_neg fun hmarked => h hmarked.1]

/-- An underscore stays in front of anything but a letter. -/
theorem capitalizeMarked_underscore {rest : List Char} (h : ¬ rest.head?.any Char.isAlpha) :
    capitalizeMarked ('_' :: rest) = '_' :: capitalizeMarked rest := by
  cases rest with
  | nil => rfl
  | cons d rest => rw [capitalizeMarked, if_neg fun hmarked => h hmarked.2]

/-- An underscore in front of a letter marks it. -/
theorem capitalizeMarked_letter {c : Char} (h : c.isAlpha) (rest : List Char) :
    capitalizeMarked ('_' :: c :: rest) = c.toUpper :: capitalizeMarked rest := by
  rw [capitalizeMarked, if_pos ⟨rfl, h⟩]

/-- Nothing is marked in a text without underscores. -/
theorem capitalizeMarked_of_not_mem {cs : List Char} (h : '_' ∉ cs) : capitalizeMarked cs = cs := by
  induction cs with
  | nil => rfl
  | cons c rest ih =>
    rw [List.mem_cons, not_or] at h
    rw [capitalizeMarked_cons_of_ne (Ne.symm h.1), ih h.2]

/-- A text may be cut in front of an underscore, since this is no letter that another
one could mark. -/
theorem capitalizeMarked_append_underscore (cs rest : List Char) :
    capitalizeMarked (cs ++ '_' :: rest) =
      capitalizeMarked cs ++ capitalizeMarked ('_' :: rest) := by
  fun_induction capitalizeMarked cs with
  | case1 => rfl
  | case2 c =>
    rw [List.singleton_append, capitalizeMarked, if_neg fun hmarked => absurd hmarked.2 (by decide)]
    rfl
  | case3 c d tail hmarked ih =>
    rw [List.cons_append, List.cons_append, capitalizeMarked, if_pos hmarked, ih, List.cons_append]
  | case4 c d tail hmarked ih =>
    rw [List.cons_append, List.cons_append, capitalizeMarked, if_neg hmarked, ← List.cons_append,
      ih, List.cons_append]

/-- Texts that all begin with an underscore may be joined before or after. -/
theorem capitalizeMarked_flatMap_cons (segments : List (List Char)) :
    capitalizeMarked (segments.flatMap ('_' :: ·)) = segments.flatMap fun s =>
      capitalizeMarked ('_' :: s) := by
  induction segments with
  | nil => rfl
  | cons segment segments ih =>
    cases segments with
    | nil => simp
    | cons other segments =>
      have hcut := capitalizeMarked_append_underscore ('_' :: segment)
        (other ++ segments.flatMap ('_' :: ·))
      rw [List.flatMap_cons] at ih ⊢
      exact hcut.trans (congrArg (capitalizeMarked ('_' :: segment) ++ ·) ih)

/-- If there are no capitals, marking those that are made gives the text back. -/
theorem flatMap_snakeChar_capitalizeMarked {cs : List Char} (h : ∀ c ∈ cs, ¬ c.isUpper) :
    (capitalizeMarked cs).flatMap snakeChar = cs := by
  fun_induction capitalizeMarked cs with
  | case1 => rfl
  | case2 c => simpa [snakeChar] using h
  | case3 c d rest hmarked ih =>
    obtain ⟨rfl, hletter⟩ := hmarked
    simp only [List.forall_mem_cons] at h
    have hlower : d.isLower := by simpa [Char.isAlpha, h.2.1] using hletter
    rw [List.flatMap_cons, snakeChar_toUpper hlower, ih h.2.2]
    rfl
  | case4 c d rest hmarked ih =>
    rw [List.forall_mem_cons] at h
    rw [List.flatMap_cons, ih h.2, snakeChar, if_neg h.1]
    rfl

/-- No capitals are left in small letters, also behind an underscore. -/
theorem not_isUpper_of_mem_underscore_lowercase (cs : List Char) :
    ∀ c ∈ '_' :: Text.lowercase cs, ¬ c.isUpper := by
  rw [List.forall_mem_cons]
  exact ⟨by decide, fun c => Text.not_isUpper_of_mem_lowercase⟩

/-- Capitals that have been marked are found again if no small letter follows an
underscore of the text. -/
theorem capitalizeMarked_flatMap_snakeChar {cs : List Char}
    (h : ∀ rest, '_' :: rest <:+ cs → ¬ rest.head?.any Char.isLower) :
    capitalizeMarked (cs.flatMap snakeChar) = cs := by
  induction cs with
  | nil => rfl
  | cons c rest ih =>
    have hrest := ih fun tail htail => h tail (List.suffix_cons_iff.mpr (.inr htail))
    rw [List.flatMap_cons]
    by_cases hupper : c.isUpper
    · have hletter : c.toLower.isAlpha := by simp [Char.isAlpha, hupper]
      rw [snakeChar, if_pos hupper]
      change capitalizeMarked ('_' :: c.toLower :: rest.flatMap snakeChar) = _
      rw [capitalizeMarked_letter hletter, hrest, Char.toUpper_toLower_eq_toUpper,
        Char.toUpper_eq_of_not_isLower (Char.not_isLower_of_isUpper hupper)]
    · rw [snakeChar, if_neg hupper, List.singleton_append]
      by_cases hmark : c = '_'
      · subst hmark
        have hnext : ¬ (rest.flatMap snakeChar).head?.any Char.isAlpha := by
          -- a capital has got an underscore of its own, and small letters do not follow
          have hsmall := h rest (List.suffix_refl _)
          cases rest with
          | nil => simp
          | cons d rest =>
            by_cases hcapital : d.isUpper
            · simp [snakeChar, hcapital]
            · simpa [snakeChar, hcapital, Char.isAlpha] using hsmall
        rw [capitalizeMarked_underscore hnext, hrest]
      · rw [capitalizeMarked_cons_of_ne hmark, hrest]

/-- Capitals that have been marked are found again in a text without underscores. -/
theorem capitalizeMarked_flatMap_snakeChar_of_not_mem {cs : List Char} (h : '_' ∉ cs) :
    capitalizeMarked (cs.flatMap snakeChar) = cs :=
  capitalizeMarked_flatMap_snakeChar fun _ hrest => absurd (hrest.mem List.mem_cons_self) h

/-- No small letter comes to stand in front. -/
theorem not_isLower_head_capitalizeMarked {cs : List Char} (h : ¬ cs.head?.any Char.isLower) :
    ¬ (capitalizeMarked cs).head?.any Char.isLower := by
  fun_cases capitalizeMarked cs with
  | case1 => simp
  | case2 c => exact h
  | case3 c d rest hmarked => simp
  | case4 c d rest hmarked => exact h

/-- No underscore in front of a small letter is left. -/
theorem not_isLower_of_suffix_capitalizeMarked {cs rest : List Char}
    (h : '_' :: rest <:+ capitalizeMarked cs) : ¬ rest.head?.any Char.isLower := by
  fun_induction capitalizeMarked cs with
  | case1 => simp at h
  | case2 c =>
    have hrest : '_' = c ∧ rest = [] := by simpa [List.suffix_cons_iff] using h
    simp [hrest.2]
  | case3 c d tail hmarked ih =>
    rcases List.suffix_cons_iff.mp h with heq | htail
    · have hletter : d.toUpper.isAlpha := by simpa using hmarked.2
      rw [← (List.cons.inj heq).1] at hletter
      exact absurd hletter (by decide)
    · exact ih htail
  | case4 c d tail hmarked ih =>
    rcases List.suffix_cons_iff.mp h with heq | htail
    · obtain ⟨rfl, rfl⟩ := List.cons.inj heq
      apply not_isLower_head_capitalizeMarked
      intro hlower
      exact hmarked ⟨rfl, by simpa [Char.isAlpha] using .inr hlower⟩
    · exact ih htail

/-- Capitals that have been marked are found again exactly if no small letter follows an
underscore of the text. -/
theorem capitalizeMarked_flatMap_snakeChar_iff {cs : List Char} :
    capitalizeMarked (cs.flatMap snakeChar) = cs ↔
      ∀ rest, '_' :: rest <:+ cs → ¬ rest.head?.any Char.isLower := by
  refine ⟨fun h rest hrest => ?_, capitalizeMarked_flatMap_snakeChar⟩
  rw [← h] at hrest
  exact not_isLower_of_suffix_capitalizeMarked hrest

/-- A word in Pascal case is its small form behind an underscore, which may mark the first
letter. -/
theorem capitalizeMarked_lowercase_word {word : List Char} (h : '_' ∉ word) :
    capitalizeMarked ('_' :: Text.lowercase word) = Convention.pascalWord word := by
  have hmark := Text.underscore_not_mem_lowercase h
  have hsmall : ∀ c ∈ Text.lowercase word, ¬ c.isUpper := fun c => Text.not_isUpper_of_mem_lowercase
  rw [Convention.pascalWord]
  cases hword : Text.lowercase word with
  | nil => rfl
  | cons c rest =>
    rw [hword] at hmark hsmall
    rw [List.mem_cons, not_or] at hmark
    rw [List.forall_mem_cons] at hsmall
    have hrest := capitalizeMarked_of_not_mem hmark.2
    dsimp only
    split
    · next hlower =>
      rw [capitalizeMarked_letter (by simp [Char.isAlpha, hlower]), hrest, Convention.capitalize,
        Text.map_toLower_eq_self hsmall.2]
    · next hlower =>
      have hletter : ¬ (c :: rest).head?.any Char.isAlpha := by
        simp [Char.isAlpha, hlower, hsmall.1]
      rw [capitalizeMarked_underscore hletter, capitalizeMarked_cons_of_ne (Ne.symm hmark.1), hrest]

/-- The words that underscores separate, joined in Pascal case, are made from the whole text at
once. -/
theorem join_pascal_split_screaming (cs : List Char) :
    Convention.pascal.join (Convention.screaming.split cs) =
      capitalizeMarked ('_' :: Text.lowercase cs) := by
  have hword : ∀ word ∈ Text.pieces '_' cs,
      Convention.pascalWord word = capitalizeMarked ('_' :: Text.lowercase word) :=
    fun word hword =>
      (capitalizeMarked_lowercase_word (Text.separator_not_mem_of_mem_pieces hword)).symm
  -- first lower-casing, then capitalising is taken from the words over to the text they
  -- are the pieces of
  change (Text.pieces '_' cs).flatMap Convention.pascalWord = _
  rw [List.flatMap_congr hword, ← Text.flatMap_lowercase_pieces, ← List.flatMap_map Text.lowercase,
    capitalizeMarked_flatMap_cons, List.flatMap_map]

/-- The name of a variant is made from the whole name: in small letters and behind one underscore
more, every underscore that a letter follows is dropped and the letter is capitalised. -/
theorem variantName_eq_capitalizeMarked (name : String) :
    variantName name = String.ofList (capitalizeMarked ('_' :: Text.lowercase name.toList)) := by
  rw [variantName, Convention.convert, join_pascal_split_screaming]

/-- The sigma at the end of each word is a final one, and only an ASCII letter loses
its underscore. -/
example : variantName "ΟΔΟΣ_ΣΑΣ__K" = "_οδος_σας_K" := by decide +kernel

end SdlCodegen
