import SdlCodegen.Proofs.Naming.Marked

/-!
# Names converted there and back

A field name comes back from snake case if it has no underscore, and a name comes back from
camel case if it is in snake case; between these two kinds of names the conversions are
inverse to each other.

For the values of enums the case of letters gets lost. What comes back is the value in capitals,
with an underscore in front if it does not begin with a letter, since a word without a letter in
front keeps its underscore and only a leading capital makes up for the empty word before it. The
other way round a name comes back if it begins with a capital and has no underscore that would be
taken for the mark of a letter. Both hold in ASCII only: a letter outside it has no capital here,
but it has a small form.
-/

namespace SdlCodegen

/-- Texts in snake case: there are no capitals, and every underscore stands in front of
a small letter. -/
structure IsSnakeText (cs : List Char) : Prop where
  small : ∀ c ∈ cs, ¬ c.isUpper
  marks : ∀ rest, '_' :: rest <:+ cs → rest.head?.any Char.isLower

namespace IsSnakeText

/-- The rest of a text in snake case is one. -/
theorem tail {c : Char} {rest : List Char} (h : IsSnakeText (c :: rest)) : IsSnakeText rest where
  small d hd := h.small d (List.mem_cons_of_mem c hd)
  marks tail htail := h.marks tail (List.suffix_cons_iff.mpr (.inr htail))

/-- Where capitals are marked in a text without underscores, only small letters follow the marks. -/
theorem flatMap_snakeChar {cs : List Char} (h : '_' ∉ cs) : IsSnakeText (cs.flatMap snakeChar) where
  small c hc := not_isUpper_of_mem_flatMap_snakeChar hc
  marks tail htail := by
    induction cs with
    | nil => simp at htail
    | cons c rest ih =>
      rw [List.mem_cons, not_or] at h
      rw [List.flatMap_cons] at htail
      by_cases hupper : c.isUpper
      · rw [snakeChar, if_pos hupper] at htail
        rcases List.suffix_cons_iff.mp htail with heq | htail
        · rw [(List.cons.inj heq).2]
          simp [Char.isAlpha, hupper]
        · rcases List.suffix_cons_iff.mp htail with heq | htail
          · have hmark := (Text.toLower_eq_underscore_iff c).mp (List.cons.inj heq).1.symm
            exact absurd hmark.symm h.1
          · exact ih h.2 htail
      · rw [snakeChar, if_neg hupper] at htail
        rcases List.suffix_cons_iff.mp htail with heq | htail
        · exact absurd (List.cons.inj heq).1 h.1
        · exact ih h.2 htail

/-- The words of a text in snake case, joined in camel case, have its marked letters as capitals. -/
theorem join_camel_split_snake {cs : List Char} (h : IsSnakeText cs) :
    Convention.camel.join (Convention.snake.split cs) = capitalizeMarked cs := by
  change (Text.cutAt '_' cs).1.map Char.toLower ++
    (Text.cutAt '_' cs).2.flatMap Convention.capitalize = _
  -- in snake case there is no underscore that both sides would treat differently: all of
  -- them are dropped
  fun_induction capitalizeMarked cs with
  | case1 => rfl
  | case2 c =>
    have hmark : c ≠ '_' := by
      rintro rfl
      simpa using h.marks [] (List.suffix_refl _)
    have hsmall : ¬ c.isUpper := h.small c List.mem_cons_self
    simp [Text.cutAt, hmark, Char.toLower_eq_of_not_isUpper hsmall]
  | case3 c d rest hmarked ih =>
    obtain ⟨rfl, hletter⟩ := hmarked
    have hmark : d ≠ '_' := by
      rintro rfl
      exact absurd hletter (by decide)
    rw [← ih h.tail.tail]
    simp [Text.cutAt, hmark, Convention.capitalize]
  | case4 c d rest hmarked ih =>
    have hmark : c ≠ '_' := by
      rintro rfl
      have hlower : d.isLower := h.marks (d :: rest) (List.suffix_refl _)
      exact hmarked ⟨rfl, by simp [Char.isAlpha, hlower]⟩
    have hsmall : ¬ c.isUpper := h.small c List.mem_cons_self
    rw [← ih h.tail]
    conv_lhs => rw [Text.cutAt]
    simp [hmark, Char.toLower_eq_of_not_isUpper hsmall]

end IsSnakeText

/-- No underscore comes into a text in small letters of ASCII. -/
theorem underscore_not_mem_map_toLower {cs : List Char} (h : '_' ∉ cs) :
    '_' ∉ cs.map Char.toLower := by
  intro hmem
  obtain ⟨c, hc, heq⟩ := List.mem_map.mp hmem
  rw [(Text.toLower_eq_underscore_iff c).mp heq] at hc
  exact h hc

/-- No underscore comes into a word that is capitalised. -/
theorem underscore_not_mem_capitalize {word : List Char} (h : '_' ∉ word) :
    '_' ∉ Convention.capitalize word := by
  cases word with
  | nil => exact h
  | cons c rest =>
    rw [List.mem_cons, not_or] at h
    rw [Convention.capitalize, List.mem_cons, not_or]
    refine ⟨fun heq => ?_, underscore_not_mem_map_toLower h.2⟩
    exact h.1 ((Text.toUpper_eq_underscore_iff c).mp heq.symm).symm

/-- No underscore is left between words that are joined in camel case. -/
theorem underscore_not_mem_join_camel (cs : List Char) :
    '_' ∉ Convention.camel.join (Convention.snake.split cs) := by
  have hpieces : ∀ word ∈ Text.pieces '_' cs, '_' ∉ word :=
    fun word => Text.separator_not_mem_of_mem_pieces
  rw [Text.pieces, List.forall_mem_cons] at hpieces
  change '_' ∉ (Text.cutAt '_' cs).1.map Char.toLower ++
    (Text.cutAt '_' cs).2.flatMap Convention.capitalize
  rw [List.mem_append, not_or]
  refine ⟨underscore_not_mem_map_toLower hpieces.1, fun hmem => ?_⟩
  obtain ⟨word, hword, hmark⟩ := List.mem_flatMap.mp hmem
  exact underscore_not_mem_capitalize (hpieces.2 word hword) hmark

/-- A name without underscores comes back from snake case. -/
theorem convert_fieldName {name : String} (h : '_' ∉ name.toList) :
    Convention.convert .snake .camel (fieldName name) = name := by
  have hsnake := IsSnakeText.flatMap_snakeChar h
  rw [Convention.convert, toList_fieldName, hsnake.join_camel_split_snake,
    capitalizeMarked_flatMap_snakeChar_of_not_mem h, String.ofList_toList]

/-- A name in snake case comes back from camel case. -/
theorem fieldName_convert {name : String} (h : IsSnakeText name.toList) :
    fieldName (Convention.convert .snake .camel name) = name := by
  apply String.toList_injective
  rw [toList_fieldName, Convention.convert, String.toList_ofList, h.join_camel_split_snake,
    flatMap_snakeChar_capitalizeMarked h.small]

/-- Writing names in snake case and reading them back are inverse to each other between the names
without underscores and the names in snake case, and between no others. -/
theorem fieldName_inverse :
    (∀ name : String, Convention.convert .snake .camel (fieldName name) = name ↔
      '_' ∉ name.toList) ∧
    (∀ name : String, fieldName (Convention.convert .snake .camel name) = name ↔
      IsSnakeText name.toList) ∧
    Set.BijOn fieldName {name | '_' ∉ name.toList} {name | IsSnakeText name.toList} ∧
    Set.BijOn (Convention.convert .snake .camel) {name | IsSnakeText name.toList}
      {name | '_' ∉ name.toList} ∧
    Set.InvOn (Convention.convert .snake .camel) fieldName {name | '_' ∉ name.toList}
      {name | IsSnakeText name.toList} := by
  have hcamel : ∀ name, '_' ∉ (Convention.convert .snake .camel name).toList := by
    intro name
    rw [Convention.convert, String.toList_ofList]
    exact underscore_not_mem_join_camel name.toList
  have hsnake : ∀ name : String, '_' ∉ name.toList → IsSnakeText (fieldName name).toList := by
    intro name hname
    rw [toList_fieldName]
    exact .flatMap_snakeChar hname
  have hinverse : Set.InvOn (Convention.convert .snake .camel) fieldName
      {name | '_' ∉ name.toList} {name | IsSnakeText name.toList} :=
    ⟨fun name => convert_fieldName, fun name => fieldName_convert⟩
  refine ⟨fun name => ⟨fun h => ?_, convert_fieldName⟩,
    fun name => ⟨fun h => ?_, fieldName_convert⟩,
    hinverse.bijOn hsnake fun name _ => hcamel name,
    hinverse.symm.bijOn (fun name _ => hcamel name) hsnake, hinverse⟩
  · rw [← h]
    exact hcamel _
  · rw [← h]
    exact hsnake _ (hcamel name)

/-- In front of a leading capital, camel case has an empty word that Pascal case has not. -/
theorem split_camel_of_isUpper {cs : List Char} (h : cs.head?.any Char.isUpper) :
    Convention.camel.split cs = [] :: Convention.pascal.split cs := by
  cases cs with
  | nil => simp at h
  | cons c rest =>
    have hupper : c.isUpper := h
    simp [Convention.split, Convention.cutBeforeCapitals, hupper]

/-- Without a leading capital, camel case and Pascal case have the same words. -/
theorem split_camel_of_not_isUpper {cs : List Char} (h : ¬ cs.head?.any Char.isUpper) :
    Convention.camel.split cs = Convention.pascal.split cs := by
  cases cs with
  | nil => rfl
  | cons c rest =>
    have hupper : ¬ c.isUpper := h
    simp [Convention.split, Convention.cutBeforeCapitals, hupper]

/-- Screaming snake case is snake case in capitals. -/
theorem join_screaming (words : List (List Char)) :
    Convention.screaming.join words = (Convention.snake.join words).map Char.toUpper := by
  change _ = (List.intercalate ['_'] (words.map (·.map Char.toLower))).map Char.toUpper
  rw [Text.map_intercalate, List.map_map]
  simp [Convention.join, Function.comp_def]

/-- A text in Pascal case without a leading capital becomes its marked form in capitals. -/
theorem join_screaming_of_not_isUpper {cs : List Char} (h : ¬ cs.head?.any Char.isUpper) :
    Convention.screaming.join (Convention.pascal.split cs) =
      (cs.flatMap snakeChar).map Char.toUpper := by
  rw [join_screaming, ← join_snake_split_camel, split_camel_of_not_isUpper h]

/-- A leading capital loses its mark, since no word stands in front of it. -/
theorem underscore_join_screaming_of_isUpper {cs : List Char} (h : cs.head?.any Char.isUpper) :
    '_' :: Convention.screaming.join (Convention.pascal.split cs) =
      (cs.flatMap snakeChar).map Char.toUpper := by
  have hwords : Convention.pascal.split cs ≠ [] := by
    rw [Convention.split]
    split <;> exact List.cons_ne_nil _ _
  rw [join_screaming, ← join_snake_split_camel, split_camel_of_isUpper h]
  change _ =
    (List.intercalate ['_'] ([] :: (Convention.pascal.split cs).map (·.map Char.toLower))).map _
  rw [List.intercalate_cons_of_ne_nil (by simpa using hwords)]
  rfl

/-- The marked form of a text has no capitals, so it comes back from capitals. -/
theorem map_toLower_map_toUpper_flatMap_snakeChar (cs : List Char) :
    ((cs.flatMap snakeChar).map Char.toUpper).map Char.toLower = cs.flatMap snakeChar := by
  rw [List.map_map]
  simp only [Function.comp_def, Char.toLower_toUpper_eq_toLower]
  exact Text.map_toLower_eq_self fun c hc => not_isUpper_of_mem_flatMap_snakeChar hc

/-- The name of a variant begins with a capital exactly if the value begins with a letter. -/
theorem head_capitalizeMarked_underscore (cs : List Char) :
    (capitalizeMarked ('_' :: cs.map Char.toLower)).head?.any Char.isUpper =
      cs.head?.any Char.isAlpha := by
  cases cs with
  | nil => rfl
  | cons c rest =>
    by_cases hletter : c.isAlpha
    · rw [List.map_cons, capitalizeMarked_letter (by simpa using hletter)]
      simp [hletter]
    · rw [capitalizeMarked_underscore (by simpa using hletter)]
      simp [hletter]

/-- The name of a variant, read in Pascal case, becomes the value in capitals. -/
theorem convert_variantName {name : String} (h : ∀ c ∈ name.toList, c.toNat < 128) :
    Convention.convert .pascal .screaming (variantName name) =
      if name.toList.head?.any Char.isAlpha then name.toUpper else "_" ++ name.toUpper := by
  have hvariant :
      (variantName name).toList = capitalizeMarked ('_' :: name.toList.map Char.toLower) := by
    rw [variantName, Convention.convert, String.toList_ofList, join_pascal_split_screaming,
      Text.lowercase_eq_map h]
  have hcapitals : ((variantName name).toList.flatMap snakeChar).map Char.toUpper =
      '_' :: name.toUpper.toList := by
    rw [hvariant, ← Text.lowercase_eq_map h,
      flatMap_snakeChar_capitalizeMarked (not_isUpper_of_mem_underscore_lowercase name.toList),
      Text.lowercase_eq_map h, String.toUpper, String.toList_map]
    simp
  have hhead := head_capitalizeMarked_underscore name.toList
  rw [← hvariant] at hhead
  apply String.toList_injective
  rw [Convention.convert, String.toList_ofList]
  split
  · next hletter =>
    have hjoin := underscore_join_screaming_of_isUpper (hhead.trans hletter)
    exact (List.cons.inj (hjoin.trans hcapitals)).2
  · next hletter =>
    rw [← hhead] at hletter
    rw [join_screaming_of_not_isUpper hletter, hcapitals, String.toList_append]
    rfl

/-- Marking capitals keeps a text within ASCII. -/
theorem toNat_of_mem_flatMap_snakeChar {cs : List Char} (h : ∀ c ∈ cs, c.toNat < 128) {d : Char}
    (hd : d ∈ cs.flatMap snakeChar) : d.toNat < 128 := by
  obtain ⟨c, hc, hd⟩ := List.mem_flatMap.mp hd
  unfold snakeChar at hd
  split at hd
  · simp only [List.mem_cons, List.not_mem_nil, or_false] at hd
    rcases hd with rfl | rfl
    · decide
    · exact Text.toNat_toLower_lt (h c hc)
  · rw [List.mem_singleton.mp hd]
    exact h c hc

/-- The variant of a value that was read in Pascal case is made from the marked form, behind one
more underscore unless the name begins with a capital. -/
theorem toList_variantName_convert {name : String} (h : ∀ c ∈ name.toList, c.toNat < 128) :
    (variantName (Convention.convert .pascal .screaming name)).toList =
      capitalizeMarked (if name.toList.head?.any Char.isUpper then name.toList.flatMap snakeChar
        else '_' :: name.toList.flatMap snakeChar) := by
  have hmarked : ∀ c ∈ (name.toList.flatMap snakeChar).map Char.toUpper, c.toNat < 128 := by
    intro c hc
    obtain ⟨d, hd, rfl⟩ := List.mem_map.mp hc
    exact Text.toNat_toUpper_lt (toNat_of_mem_flatMap_snakeChar h hd)
  rw [variantName, Convention.convert, Convention.convert, String.toList_ofList,
    String.toList_ofList, join_pascal_split_screaming]
  split
  · next hupper =>
    have hjoin := underscore_join_screaming_of_isUpper hupper
    rw [← hjoin, List.forall_mem_cons] at hmarked
    rw [Text.lowercase_eq_map hmarked.2, ← map_toLower_map_toUpper_flatMap_snakeChar, ← hjoin]
    rfl
  · next hupper =>
    rw [join_screaming_of_not_isUpper hupper, Text.lowercase_eq_map hmarked,
      map_toLower_map_toUpper_flatMap_snakeChar]

/-- The value comes back exactly if it begins with a capital and has no small letter. -/
theorem convert_variantName_eq_iff {name : String} (h : ∀ c ∈ name.toList, c.toNat < 128) :
    Convention.convert .pascal .screaming (variantName name) = name ↔
      name.toList.head?.any Char.isUpper ∧ ∀ c ∈ name.toList, ¬ c.isLower := by
  have hcapitals : name.toUpper = name ↔ ∀ c ∈ name.toList, ¬ c.isLower := by
    rw [← String.toList_inj, String.toUpper, String.toList_map, Text.map_toUpper_eq_self_iff]
  rw [convert_variantName h]
  split
  · next hletter =>
    rw [hcapitals]
    refine ⟨fun hnone => ⟨?_, hnone⟩, fun hback => hback.2⟩
    cases hname : name.toList with
    | nil => simp [hname] at hletter
    | cons c rest =>
      rw [hname] at hletter hnone
      simpa [Char.isAlpha, (List.forall_mem_cons.mp hnone).1] using hletter
  · next hletter =>
    refine iff_of_false ?_ ?_
    · intro heq
      have hlength := congrArg String.length heq
      simp [String.toUpper] at hlength
    · rintro ⟨hupper, -⟩
      cases hname : name.toList with
      | nil => simp [hname] at hupper
      | cons c rest => simp_all [Char.isAlpha]

/-- A name in Pascal case comes back exactly if it begins with a capital and no underscore of it
stands in front of a small letter. -/
theorem variantName_convert_eq_iff {name : String} (h : ∀ c ∈ name.toList, c.toNat < 128) :
    variantName (Convention.convert .pascal .screaming name) = name ↔
      name.toList.head?.any Char.isUpper ∧
        ∀ rest, '_' :: rest <:+ name.toList → ¬ rest.head?.any Char.isLower := by
  rw [← String.toList_inj, toList_variantName_convert h]
  split
  · next hupper => rw [capitalizeMarked_flatMap_snakeChar_iff, and_iff_right hupper]
  · next hupper =>
    refine iff_of_false ?_ fun hback => hupper hback.1
    intro heq
    have hsmall : ∀ c ∈ '_' :: name.toList.flatMap snakeChar, ¬ c.isUpper := by
      rw [List.forall_mem_cons]
      exact ⟨by decide, fun c => not_isUpper_of_mem_flatMap_snakeChar⟩
    -- with its capitals marked, the result has one underscore more than the name so marked
    have hlength := congrArg List.length (flatMap_snakeChar_capitalizeMarked hsmall)
    rw [heq] at hlength
    simp at hlength

/-- Writing a value as a variant and reading it back gives the value in capitals, behind an
underscore unless it begins with a letter; and reading a name in Pascal case as a value and writing
it again gives the name exactly if it begins with a capital and none of its underscores stands in
front of a small letter. -/
theorem variantName_there_and_back {name : String} (h : ∀ c ∈ name.toList, c.toNat < 128) :
    Convention.convert .pascal .screaming (variantName name) =
      (if name.toList.head?.any Char.isAlpha then name.toUpper else "_" ++ name.toUpper) ∧
    (Convention.convert .pascal .screaming (variantName name) = name ↔
      name.toList.head?.any Char.isUpper ∧ ∀ c ∈ name.toList, ¬ c.isLower) ∧
    (variantName (Convention.convert .pascal .screaming name) = name ↔
      name.toList.head?.any Char.isUpper ∧
        ∀ rest, '_' :: rest <:+ name.toList → ¬ rest.head?.any Char.isLower) :=
  ⟨convert_variantName h, convert_variantName_eq_iff h, variantName_convert_eq_iff h⟩

/-- A value with all kinds of underscores, doubled, in front of a digit and at the end, comes back,
and so does the same text as a name in Pascal case. -/
theorem variantName_there_and_back_underscores :
    let name := "A__B_2_"
    (∀ c ∈ name.toList, c.toNat < 128) ∧
      Convention.convert .pascal .screaming (variantName name) = name ∧
      variantName (Convention.convert .pascal .screaming name) = name := by
  intro name
  have hname : name.toList = ['A', '_', '_', 'B', '_', '2', '_'] := by decide +kernel
  have h : ∀ c ∈ name.toList, c.toNat < 128 := by simp [hname]
  obtain ⟨-, hvalue, hvariant⟩ := variantName_there_and_back h
  rw [hname] at hvalue hvariant
  refine ⟨h, hvalue.mpr ⟨rfl, by simp⟩, hvariant.mpr ⟨rfl, ?_⟩⟩
  intro rest hrest
  have hcases : rest = ['_', 'B', '_', '2', '_'] ∨ rest = ['B', '_', '2', '_'] ∨ rest = ['2', '_'] ∨
      rest = [] := by
    simpa [List.suffix_cons_iff] using hrest
  rcases hcases with rfl | rfl | rfl | rfl <;> decide

end SdlCodegen
