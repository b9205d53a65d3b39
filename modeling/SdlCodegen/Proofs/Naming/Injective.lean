import SdlCodegen.Proofs.Naming.Marked

/-!
# What a conversion of names forgets

Snake case marks every capital with an underscore, so the name can be read off the result as long as
it has no underscore of its own. It does so character by character, and where no capitals are left
there is nothing more to mark. Pascal case forgets the case of the letters and nothing else, however
underscores, digits and letters follow each other: written on in snake case, its result is the name
in small letters with an underscore in front.
-/

namespace SdlCodegen

/-- A name with every capital replaced by an underscore and the small letter. -/
def markCapitals (name : String) : String :=
  String.ofList (name.toList.flatMap snakeChar)

/-- The name of a struct field or method marks the capitals of a name. -/
theorem fieldName_eq_markCapitals (name : String) : fieldName name = markCapitals name := by
  rw [markCapitals, ← toList_fieldName, String.ofList_toList]

/-- No capitals are left where they are marked. -/
theorem not_isUpper_of_mem_markCapitals {name : String} {c : Char}
    (h : c ∈ (markCapitals name).toList) :
    ¬ c.isUpper := by
  rw [markCapitals, String.toList_ofList] at h
  exact not_isUpper_of_mem_flatMap_snakeChar h

/-- Exactly the names without capitals stay as they are when capitals are marked. -/
theorem markCapitals_eq_self_iff {name : String} :
    markCapitals name = name ↔ ∀ c ∈ name.toList, ¬ c.isUpper := by
  constructor
  · intro h c hc
    rw [← h] at hc
    exact not_isUpper_of_mem_markCapitals hc
  · intro h
    have hchars : name.toList.flatMap snakeChar = name.toList.flatMap fun c => [c] :=
      List.flatMap_congr fun c hc => if_neg (h c hc)
    rw [markCapitals, hchars, List.flatMap_singleton', String.ofList_toList]

/-- The capitals of a name are marked part by part. -/
theorem markCapitals_append (first second : String) :
    markCapitals (first ++ second) = markCapitals first ++ markCapitals second := by
  rw [markCapitals, String.toList_append, List.flatMap_append, String.ofList_append]
  rfl

/-- The name of a struct field or method is the name with every capital replaced by an underscore
and the small letter, whatever its other characters are. So it may be made part by part, a second
conversion changes nothing, and exactly the names without capitals stay as they are. -/
theorem fieldName_replaces_capitals :
    (∀ name, fieldName name = markCapitals name) ∧
    (∀ first second, fieldName (first ++ second) = fieldName first ++ fieldName second) ∧
    (∀ name, fieldName (fieldName name) = fieldName name) ∧
    ∀ name, fieldName name = name ↔ ∀ c ∈ name.toList, ¬ c.isUpper := by
  have hmarks : fieldName = markCapitals := funext fieldName_eq_markCapitals
  refine ⟨fieldName_eq_markCapitals, ?_⟩
  rw [hmarks]
  refine ⟨markCapitals_append, fun name => ?_, fun _ => markCapitals_eq_self_iff⟩
  exact markCapitals_eq_self_iff.mpr fun _ => not_isUpper_of_mem_markCapitals

/-- A leading capital and each one of a run get a mark, but no letter outside ASCII does. -/
example : fieldName "HTTPÄrger_Ω" = "_h_t_t_pÄrger_Ω" := by decide +kernel

/-- Names without underscores that have the same marks are equal. -/
theorem eq_of_markCapitals_eq {first second : String} (hfirst : '_' ∉ first.toList)
    (hsecond : '_' ∉ second.toList) (h : markCapitals first = markCapitals second) :
    first = second := by
  have hchars := congrArg String.toList h
  rw [markCapitals, markCapitals, String.toList_ofList, String.toList_ofList] at hchars
  apply String.toList_injective
  rw [← capitalizeMarked_flatMap_snakeChar_of_not_mem hfirst, hchars,
    capitalizeMarked_flatMap_snakeChar_of_not_mem hsecond]

/-- An underscore at the end of a result is one of the name. -/
theorem mem_of_markCapitals_eq {name word : String} (h : markCapitals name = word ++ "_") :
    '_' ∈ name.toList := by
  have hchars := congrArg String.toList h
  rw [markCapitals, String.toList_ofList, String.toList_append] at hchars
  rcases List.eq_nil_or_concat name.toList with hnil | ⟨front, last, hlast⟩
  · simp [hnil] at hchars
  · rw [hlast, List.concat_eq_append, List.flatMap_append, List.flatMap_singleton] at hchars
    have hends := congrArg List.getLast? hchars
    have hend : last = '_' := by
      by_cases hupper : last.isUpper
      · have hlower : last.toLower = '_' := by simpa [snakeChar, hupper] using hends
        exact (Text.toLower_eq_underscore_iff last).mp hlower
      · simpa [snakeChar, hupper] using hends
    simp [hlast, hend]

/-- A name in small letters is lower-cased character by character. -/
theorem lowercase_of_isName {name : String} (h : Sdl.isName name) :
    Text.lowercase name.toList = name.toList.map Char.toLower :=
  Text.lowercase_eq_map fun c hc => Sdl.toNat_of_isNameContinue (Sdl.all_isNameContinue h c hc)

/-- The name of a variant, written on in snake case, is the name in small letters
behind an underscore. -/
theorem markCapitals_variantName {name : String} (h : Sdl.isName name) :
    markCapitals (variantName name) = "_" ++ name.toLower := by
  apply String.toList_injective
  rw [markCapitals, variantName, Convention.convert, String.toList_ofList, String.toList_ofList,
    join_pascal_split_screaming,
    flatMap_snakeChar_capitalizeMarked (not_isUpper_of_mem_underscore_lowercase name.toList),
    lowercase_of_isName h, String.toList_append, String.toLower, String.toList_map]
  rfl

/-- The name of a variant is made from the small letters of a name only. -/
theorem variantName_toLower {name : String} (h : Sdl.isName name) :
    variantName name.toLower = variantName name := by
  have hascii : ∀ c ∈ name.toList.map Char.toLower, c.toNat < 128 :=
    List.forall_mem_map.mpr fun c hc =>
      Sdl.toNat_of_isNameContinue (Sdl.isNameContinue_toLower (Sdl.all_isNameContinue h c hc))
  have hsmall : ∀ c ∈ name.toList.map Char.toLower, ¬ c.isUpper := by simp
  rw [variantName, variantName, Convention.convert, Convention.convert, join_pascal_split_screaming,
    join_pascal_split_screaming, lowercase_of_isName h, String.toLower, String.toList_map,
    Text.lowercase_eq_map hascii, Text.map_toLower_eq_self hsmall]

/-- Names become one variant name exactly if they differ in the case of letters only. -/
theorem variantName_eq_iff {first second : String} (hfirst : Sdl.isName first)
    (hsecond : Sdl.isName second) :
    variantName first = variantName second ↔ first.toLower = second.toLower := by
  constructor
  · intro h
    have hmarked := congrArg markCapitals h
    rw [markCapitals_variantName hfirst, markCapitals_variantName hsecond] at hmarked
    exact (String.append_right_inj "_").mp hmarked
  · intro h
    rw [← variantName_toLower hfirst, ← variantName_toLower hsecond, h]

end SdlCodegen
