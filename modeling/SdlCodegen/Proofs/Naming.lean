import SdlCodegen.Naming
import SdlCodegen.Proofs.Sdl.Names
import SdlCodegen.Proofs.Text.Lowercase

/-!
# Names under conversion

The name of a struct field or of a variant is again a name of the schema language if the name that
it is made from is one. Neither conversion can leave a digit in front or nothing at all: snake case
marks every capital with an underscore, also the first, and Pascal case writes an underscore for a
word that does not begin with a letter.
-/

namespace SdlCodegen

open Sdl (isNameStart isNameContinue isNameText isName)

namespace Sdl

/-- The small form of a character of a name is one. -/
theorem isNameContinue_toLower {c : Char} (h : isNameContinue c) : isNameContinue c.toLower := by
  by_cases hupper : c.isUpper
  · simp [isNameContinue, Char.isAlpha, hupper]
  · rwa [Char.toLower_eq_of_not_isUpper hupper]

/-- The characters of a name are those of ASCII. -/
theorem toNat_of_isNameContinue {c : Char} (h : isNameContinue c) : c.toNat < 128 := by
  simp only [isNameContinue, Char.isAlpha, Char.isUpper, Char.isLower, Bool.or_eq_true,
    Bool.and_eq_true, decide_eq_true_eq, UInt32.le_iff_toNat_le, beq_iff_eq] at h
  rcases h with ((hupper | hlower) | hdigit) | rfl
  · have hbound : c.toNat ≤ 90 := hupper.2
    omega
  · have hbound : c.toNat ≤ 122 := hlower.2
    omega
  · have hbound : c.toNat ≤ 57 := (Char.isDigit_iff_toNat.mp hdigit).2
    omega
  · decide

/-- A name goes on with characters of names. -/
theorem isNameText_append {cs more : List Char} (h : isNameText cs)
    (hmore : ∀ c ∈ more, isNameContinue c) : isNameText (cs ++ more) := by
  cases cs with
  | nil => cases h
  | cons c rest =>
    simp only [isNameText, List.cons_append, Bool.and_eq_true, List.all_eq_true,
      List.mem_append] at h ⊢
    exact ⟨h.1, fun d hd => hd.elim (h.2 d) (hmore d)⟩

/-- Names that follow each other make a name. -/
theorem isNameText_flatMap {α : Type} {f : α → List Char} {a : α} {as : List α}
    (h : ∀ b ∈ a :: as, isNameText (f b)) : isNameText ((a :: as).flatMap f) := by
  rw [List.forall_mem_cons] at h
  rw [List.flatMap_cons]
  refine isNameText_append h.1 ?_
  intro c hc
  obtain ⟨b, hb, hcb⟩ := List.mem_flatMap.mp hc
  exact all_isNameContinue (h.2 b hb) c hcb

/-- A name with another one behind it is a name. -/
theorem isName_append {name suffix : String} (h : isName name) (hsuffix : isName suffix) :
    isName (name ++ suffix) := by
  rw [isName, String.toList_append]
  exact isNameText_append h (all_isNameContinue hsuffix)

end Sdl

/-- What stands for a character in snake case: a capital becomes small, behind an underscore. -/
def snakeChar (c : Char) : List Char :=
  if c.isUpper then ['_', c.toLower] else [c]

/-- Words cut in front of capitals and joined in snake case replace each character by itself. -/
theorem join_snake_split_camel (cs : List Char) :
    Convention.snake.join (Convention.camel.split cs) = cs.flatMap snakeChar := by
  change List.intercalate ['_'] (((Convention.cutBeforeCapitals cs).1 ::
    (Convention.cutBeforeCapitals cs).2).map (·.map Char.toLower)) = _
  induction cs with
  | nil => rfl
  | cons c rest ih =>
    rw [List.flatMap_cons, ← ih, Convention.cutBeforeCapitals]
    by_cases hupper : c.isUpper
    · simp [snakeChar, hupper, List.intercalate_cons_cons]
    · simp [snakeChar, hupper, Char.toLower_eq_of_not_isUpper hupper]

/-- Snake case of a name in camel case replaces each of its characters by itself. -/
theorem toList_fieldName (name : String) :
    (fieldName name).toList = name.toList.flatMap snakeChar := by
  rw [fieldName, Convention.convert, String.toList_ofList, join_snake_split_camel]

/-- The name of a struct field or method for a name is a name. -/
theorem isName_fieldName {name : String} (h : isName name) : isName (fieldName name) := by
  have hchar : ∀ c, isNameContinue c → ∀ d ∈ snakeChar c, isNameContinue d := by
    intro c hc
    by_cases hupper : c.isUpper
    · simpa [snakeChar, hupper] using ⟨rfl, Sdl.isNameContinue_toLower hc⟩
    · simpa [snakeChar, hupper] using hc
  have hall := Sdl.all_isNameContinue h
  rw [isName, toList_fieldName]
  rw [isName] at h
  cases hname : name.toList with
  | nil => simp [hname, isNameText] at h
  | cons c rest =>
    rw [hname] at h hall
    have hstart : isNameStart c := by
      simp only [isNameText, Bool.and_eq_true] at h
      exact h.1
    rw [List.flatMap_cons]
    refine Sdl.isNameText_append ?_ ?_
    · by_cases hupper : c.isUpper
      · simpa [snakeChar, hupper, isNameText, isNameStart] using
          Sdl.isNameContinue_toLower (Sdl.isNameContinue_of_isNameStart hstart)
      · simpa [snakeChar, hupper, isNameText] using hstart
    · intro d hd
      obtain ⟨e, he, hde⟩ := List.mem_flatMap.mp hd
      exact hchar e (hall e (List.mem_cons_of_mem c he)) d hde

/-- A word in Pascal case is a name if it consists of characters of names. -/
theorem isNameText_pascalWord {word : List Char} (h : ∀ c ∈ word, isNameContinue c) :
    isNameText (Convention.pascalWord word) := by
  rw [Convention.pascalWord,
    Text.lowercase_eq_map fun c hc => Sdl.toNat_of_isNameContinue (h c hc)]
  have hlower : ∀ c ∈ word.map Char.toLower, isNameContinue c :=
    List.forall_mem_map.mpr fun c hc => Sdl.isNameContinue_toLower (h c hc)
  generalize word.map Char.toLower = small at hlower
  cases small with
  | nil => rfl
  | cons c rest =>
    rw [List.forall_mem_cons] at hlower
    by_cases hc : c.isLower
    · simp only [hc, ↓reduceIte, Convention.capitalize, isNameText, isNameStart, Bool.and_eq_true,
        Bool.or_eq_true, Char.isAlpha_toUpper_eq_isAlpha, List.all_eq_true, List.forall_mem_map]
      exact ⟨Or.inl (by simp [Char.isAlpha, hc]),
        fun d hd => Sdl.isNameContinue_toLower (hlower.2 d hd)⟩
    · have hrest : (c :: rest).all isNameContinue :=
        List.all_eq_true.mpr (List.forall_mem_cons.mpr hlower)
      simpa [hc, isNameText, isNameStart] using hrest

/-- The name of a variant for a name is a name. -/
theorem isName_variantName {name : String} (h : isName name) : isName (variantName name) := by
  have hall := Sdl.all_isNameContinue h
  rw [isName, variantName, Convention.convert, String.toList_ofList]
  change isNameText ((Text.pieces '_' name.toList).flatMap Convention.pascalWord)
  refine Sdl.isNameText_flatMap ?_
  intro word hword
  exact isNameText_pascalWord fun c hc => hall c (Text.mem_of_mem_pieces hword hc)

end SdlCodegen
