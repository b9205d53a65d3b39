import SdlCodegen.Proofs.Resolution
import SdlCodegen.Proofs.Sdl.Names
import SdlCodegen.Proofs.Sdl.Takes

/-!
# Reading names and references back

A name is read back as it is if no character of a name follows it. The notation of a reference that
can be written is read back as this reference under the same condition, except that an exclamation
mark behind it belongs to it unless it ends in one itself.
-/

namespace SdlCodegen.Sdl

/-- A text goes on with no character of a name. -/
def EndsName (rest : List Char) : Prop :=
  ∀ c ∈ rest.head?, isNameContinue c = false

/-- Whether a text is such a one shows in its first character. -/
theorem endsName_cons {c : Char} (h : isNameContinue c = false) (rest : List Char) :
    EndsName (c :: rest) := by
  intro _ hc
  cases hc
  exact h

/-- A name begins with a character that may begin one, and goes on with others that may continue
it. -/
theorem exists_cons_of_isName {name : String} (h : isName name) :
    ∃ c tail, name.toList = c :: tail ∧ isNameStart c ∧ ∀ other ∈ tail, isNameContinue other := by
  rw [isName] at h
  cases hchars : name.toList with
  | nil =>
    rw [hchars] at h
    cases h
  | cons c tail =>
    rw [hchars, isNameText, Bool.and_eq_true, List.all_eq_true] at h
    exact ⟨c, tail, rfl, h⟩

/-- A scan for a name takes a name up to its end. -/
theorem scanName_append {name : String} (hname : isName name) {rest : List Char}
    (hrest : EndsName rest) : scanName (name.toList ++ rest) = some (name, rest) := by
  obtain ⟨c, tail, hchars, hstart, htail⟩ := exists_cons_of_isName hname
  have htake : rest.takeWhile isNameContinue = [] := by
    cases rest with
    | nil => rfl
    | cons next rest => rw [List.takeWhile_cons_of_neg (by simp [hrest next rfl])]
  have hdrop : rest.dropWhile isNameContinue = rest := by
    cases rest with
    | nil => rfl
    | cons next rest => rw [List.dropWhile_cons_of_neg (by simp [hrest next rfl])]
  rw [hchars, List.cons_append, scanName, if_pos hstart, List.takeWhile_append_of_pos htail,
    List.dropWhile_append_of_pos htail, htake, hdrop, List.append_nil, ← hchars,
    String.ofList_toList]

/-- Without its mark behind it a reference is not non-null. -/
theorem scanNonNull_of_ne {type : TypeRef} {rest : List Char} (h : rest.head? ≠ some '!') :
    scanNonNull type rest = (type, rest) := by
  unfold scanNonNull
  split
  · exact absurd rfl h
  · rfl

/-- A scan for a reference takes the notation of one that can be written, and a mark behind it if
it has none yet. -/
theorem scanType_append {type : TypeRef} (htype : type.isWritable) {rest : List Char}
    (hrest : EndsName rest) :
    scanType (type.text.toList ++ rest) =
      some (if type.isNonNull then (type, rest) else scanNonNull type rest) := by
  induction type generalizing rest with
  | named name =>
    obtain ⟨c, tail, hchars, hstart, -⟩ := exists_cons_of_isName htype
    have hbracket : ∀ inner, name.toList ++ rest = '[' :: inner → False := by
      intro inner heq
      rw [hchars] at heq
      cases heq
      exact absurd hstart (by decide)
    rw [TypeRef.text, scanType.eq_2 _ hbracket, scanName_append htype hrest]
    rfl
  | list element ih =>
    have hends : EndsName (']' :: rest) := endsName_cons rfl rest
    have hbracket : (TypeRef.list element).text.toList ++ rest =
        '[' :: (element.text.toList ++ ']' :: rest) := by
      simp [TypeRef.text]
    rw [hbracket, scanType.eq_1, ih htype hends, scanNonNull_of_ne (by simp), ite_self]
    rfl
  | nonNull inner ih =>
    simp only [TypeRef.isWritable, Bool.and_eq_true, Bool.not_eq_true'] at htype
    obtain ⟨hsingle, hinner⟩ := htype
    have hends : EndsName ('!' :: rest) := endsName_cons rfl rest
    have hmark :
        (TypeRef.nonNull inner).text.toList ++ rest = inner.text.toList ++ '!' :: rest := by
      simp [TypeRef.text]
    rw [hmark, ih hinner hends]
    cases inner with
    | nonNull _ => cases hsingle
    | named _ => rfl
    | list _ => rfl

/-- The notation of a reference that can be written is read back as the reference. -/
theorem scanType_text_append {type : TypeRef} (htype : type.isWritable) {rest : List Char}
    (hrest : EndsName rest) (hmark : rest.head? ≠ some '!') :
    scanType (type.text.toList ++ rest) = some (type, rest) := by
  rw [scanType_append htype hrest, scanNonNull_of_ne hmark, ite_self]

namespace Reader

/-- The reader of names takes a name. -/
theorem takes_name {text : String} (h : isName text) {rest : List Char} (hrest : EndsName rest) :
    name.Takes (text.toList ++ rest) text rest :=
  (Takes.ofScan (scanName_append h hrest)).rule

/-- The reader of type references takes the notation of one that can be written. -/
theorem takes_typeRef {type : TypeRef} (h : type.isWritable) {rest : List Char}
    (hrest : EndsName rest) (hmark : rest.head? ≠ some '!') :
    typeRef.Takes (type.text.toList ++ rest) type rest :=
  (Takes.ofScan (scanType_text_append h hrest hmark)).rule

end Reader

end SdlCodegen.Sdl
