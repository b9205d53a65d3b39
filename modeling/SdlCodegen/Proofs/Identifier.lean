import SdlCodegen.Identifier
import SdlCodegen.Proofs.Naming

/-!
# Identifiers made from names

Every name of the schema language is an identifier when reserved words are left out of account, and
escaping takes care of the reserved words: the result may stand for a type, and so anywhere else. It
keeps names apart, except for a word that may not be raw and the name that is this word with an
underscore behind it.
-/

namespace SdlCodegen.Identifier

/-- A character that may begin a name may begin an identifier. -/
theorem isStart_of_isNameStart {c : Char} (h : Sdl.isNameStart c) : isStart c := by
  have hascii : c.toNat < 128 :=
    Sdl.toNat_of_isNameContinue (Sdl.isNameContinue_of_isNameStart h)
  rw [isStart, if_pos hascii]
  exact h

/-- A character of a name may continue an identifier. -/
theorem isContinue_of_isNameContinue {c : Char} (h : Sdl.isNameContinue c) : isContinue c := by
  have hascii : c.toNat < 128 := Sdl.toNat_of_isNameContinue h
  simp only [Sdl.isNameContinue, Bool.or_eq_true] at h
  simp only [isContinue, isStart, hascii, ↓reduceIte, Bool.or_eq_true]
  rcases h with (hletter | hdigit) | hmark
  · exact Or.inl (Or.inl hletter)
  · exact Or.inr hdigit
  · exact Or.inl (Or.inr hmark)

/-- The characters of a name are those of an identifier. -/
theorem isPlain_of_isNameText {cs : List Char} (h : Sdl.isNameText cs) : isPlain cs := by
  cases cs with
  | nil => cases h
  | cons c rest =>
    simp only [Sdl.isNameText, isPlain, Bool.and_eq_true, List.all_eq_true] at h ⊢
    exact ⟨isStart_of_isNameStart h.1, fun d hd => isContinue_of_isNameContinue (h.2 d hd)⟩

/-- Where the reader of raw identifiers finds no prefix, it looks for a plain one. -/
theorem isValid_eq_isPlain {name : String} (h : '#' ∉ name.toList) :
    isValid name = isPlain name.toList := by
  unfold isValid
  split
  · next raw hraw => simp [hraw] at h
  · rfl

/-- A name has no mark of raw identifiers. -/
theorem mark_not_mem {name : String} (h : Sdl.isName name) : '#' ∉ name.toList :=
  fun hmem => absurd (Sdl.all_isNameContinue h '#' hmem) (by decide)

/-- A name is an identifier when reserved words are left out of account. -/
theorem isValid_of_isName {name : String} (h : Sdl.isName name) : isValid name := by
  rw [isValid_eq_isPlain (mark_not_mem h)]
  exact isPlain_of_isNameText h

/-- An escaped name may stand for a type. -/
theorem isTypeName_escape {name : String} (h : Sdl.isName name) : isTypeName (escape name) := by
  by_cases hpath : name ∈ pathWords
  · have hall : ∀ word ∈ pathWords, isTypeName (word ++ "_") := by decide +kernel
    rw [escape, if_pos hpath]
    exact hall name hpath
  · by_cases hkeyword : name ∈ keywords
    · have hall : ∀ word ∈ keywords, isTypeName ("r#" ++ word) := by decide +kernel
      rw [escape, if_neg hpath, if_pos hkeyword]
      exact hall name hkeyword
    · rw [escape, if_neg hpath, if_neg hkeyword]
      simp [isTypeName, isValid_of_isName h, hpath, hkeyword]

/-- What may stand for a type is an identifier. -/
theorem isValid_of_isTypeName {name : String} (h : isTypeName name) : isValid name := by
  simp only [isTypeName, Bool.and_eq_true] at h
  exact h.1.1

/-- An identifier has only its prefix and characters that may continue one. -/
theorem isContinue_of_isValid {name : String} (h : isValid name) {c : Char}
    (hc : c ∈ name.toList) : c = '#' ∨ isContinue c := by
  have hplain : ∀ {cs : List Char}, isPlain cs → ∀ d ∈ cs, isContinue d := by
    intro cs hcs d hd
    cases cs with
    | nil => cases hd
    | cons first rest =>
      simp only [isPlain, Bool.and_eq_true, List.all_eq_true] at hcs
      rcases List.mem_cons.mp hd with rfl | hd
      · simp [isContinue, hcs.1]
      · exact hcs.2 d hd
  unfold isValid at h
  split at h
  · next raw hraw =>
    simp only [Bool.and_eq_true] at h
    rw [hraw] at hc
    rcases List.mem_cons.mp hc with rfl | hc
    · exact Or.inr (by decide)
    rcases List.mem_cons.mp hc with rfl | hc
    · exact Or.inl rfl
    · exact Or.inr (hplain h.1 c hc)
  · exact Or.inr (hplain h c hc)

/-- Of two names, one is a given word and the other one is the word with an underscore behind it. -/
def IsUnderscorePair (word first second : String) : Prop :=
  (first = word ∧ second = word ++ "_") ∨ (first = word ++ "_" ∧ second = word)

/-- A name is escaped with an underscore, by a raw identifier, or not at all. -/
theorem escape_cases (name : String) :
    (name ∈ pathWords ∧ escape name = name ++ "_") ∨ escape name = "r#" ++ name ∨
      escape name = name := by
  unfold escape
  split
  · next hpath => exact .inl ⟨hpath, rfl⟩
  · split
    · exact .inr (.inl rfl)
    · exact .inr (.inr rfl)

/-- What is no raw identifier is the result of escaping itself, or of itself without an
underscore behind it. -/
theorem eq_or_of_escape_eq {name target : String} (htarget : '#' ∉ target.toList)
    (h : escape name = target) :
    name = target ∨ name ∈ pathWords ∧ target = name ++ "_" := by
  rcases escape_cases name with ⟨hpath, hescape⟩ | hescape | hescape
  · exact .inr ⟨hpath, h.symm.trans hescape⟩
  · rw [← h, hescape] at htarget
    exact absurd (by simp) htarget
  · exact .inl (hescape.symm.trans h)

/-- A raw identifier is the result of escaping one name only. -/
theorem eq_of_escape_eq_raw {name other : String} (hname : Sdl.isName name)
    (h : escape name = "r#" ++ other) : name = other := by
  rcases escape_cases name with ⟨-, hescape⟩ | hescape | hescape
  · have hsuffixed : Sdl.isName (name ++ "_") := Sdl.isName_append hname (by decide)
    rw [← hescape, h] at hsuffixed
    exact absurd (by simp) (mark_not_mem hsuffixed)
  · exact (String.append_right_inj "r#").mp (hescape.symm.trans h)
  · rw [← hescape, h] at hname
    exact absurd (by simp) (mark_not_mem hname)

/-- Escaping makes one identifier of two names exactly if one of them is a word that may not be raw
and the other one is that word with an underscore. -/
theorem escape_eq_escape_iff {first second : String} (hfirst : Sdl.isName first)
    (hsecond : Sdl.isName second) :
    escape first = escape second ↔
      first = second ∨ ∃ word ∈ pathWords, IsUnderscorePair word first second := by
  constructor
  · intro h
    rcases escape_cases first with ⟨hpath, hescape⟩ | hescape | hescape
    · have hsuffixed : Sdl.isName (first ++ "_") := Sdl.isName_append hfirst (by decide)
      rcases eq_or_of_escape_eq (mark_not_mem hsuffixed) (h.symm.trans hescape)
        with hsame | ⟨-, hsame⟩
      · exact .inr ⟨first, hpath, .inl ⟨rfl, hsame⟩⟩
      · exact .inl ((String.append_left_inj "_").mp hsame)
    · exact .inl (eq_of_escape_eq_raw hsecond (h.symm.trans hescape)).symm
    · rcases eq_or_of_escape_eq (mark_not_mem hfirst) (h.symm.trans hescape)
        with hsame | ⟨hpath, hsame⟩
      · exact .inl hsame.symm
      · exact .inr ⟨second, hpath, .inr ⟨hsame, rfl⟩⟩
  · have hword : ∀ word ∈ pathWords, escape word = escape (word ++ "_") := by decide +kernel
    rintro (rfl | ⟨word, hpath, ⟨rfl, rfl⟩ | ⟨rfl, rfl⟩⟩)
    · rfl
    · exact hword _ hpath
    · exact (hword _ hpath).symm

end SdlCodegen.Identifier
