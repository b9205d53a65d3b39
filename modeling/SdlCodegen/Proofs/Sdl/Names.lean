import SdlCodegen.Proofs.Sdl.Yields

/-!
# Names and types that a schema text can write

A name begins with a letter or an underscore and goes on with letters, digits and underscores, all
of ASCII. A type reference can be written if the name in it can and no non-null wrapper stands
directly under another. The readers of names and of type references give nothing else.
-/

namespace SdlCodegen

namespace Sdl

/-- Whether characters are those of a name. -/
def isNameText : List Char → Bool
  | [] => false
  | c :: rest => isNameStart c && rest.all isNameContinue

/-- Whether a text is a name of the schema language. -/
def isName (name : String) : Bool :=
  isNameText name.toList

/-- The first character of a name may also stand later. -/
theorem isNameContinue_of_isNameStart {c : Char} (h : isNameStart c) : isNameContinue c := by
  simp only [isNameStart, isNameContinue, Bool.or_eq_true] at h ⊢
  exact h.imp_left Or.inl

/-- A name has only characters that may continue one. -/
theorem all_isNameContinue {cs : List Char} (h : isNameText cs) : ∀ c ∈ cs, isNameContinue c := by
  cases cs with
  | nil => cases h
  | cons c rest =>
    simp only [isNameText, Bool.and_eq_true, List.all_eq_true] at h
    exact List.forall_mem_cons.mpr ⟨isNameContinue_of_isNameStart h.1, h.2⟩

/-- What a scan for a name takes is a name. -/
theorem isName_of_scanName {cs : List Char} {name : String} {rest : List Char}
    (h : scanName cs = some (name, rest)) : isName name := by
  cases cs with
  | nil => cases h
  | cons c tail =>
    simp only [scanName] at h
    split at h
    · next hstart =>
      simp only [Option.some.injEq, Prod.mk.injEq] at h
      rw [← h.1, isName, String.toList_ofList, isNameText, hstart, List.all_takeWhile]
      rfl
    · cases h

end Sdl

/-- Whether a reference can be written in a schema text. -/
def TypeRef.isWritable : TypeRef → Bool
  | named name => Sdl.isName name
  | list element => element.isWritable
  | nonNull inner => !(nonNull inner).isDoubledNonNull && inner.isWritable

/-- The name in a reference that can be written is a name of the schema language. -/
theorem TypeRef.isName_leaf {type : TypeRef} (h : type.isWritable) : Sdl.isName type.leaf := by
  induction type with
  | named name => exact h
  | list element ih => exact ih h
  | nonNull inner ih =>
    simp only [isWritable, Bool.and_eq_true] at h
    exact ih h.2

/-- No reference that can be written is one non-null wrapper directly under another. -/
theorem TypeRef.isDoubledNonNull_of_isWritable {type : TypeRef} (h : type.isWritable) :
    type.isDoubledNonNull = false := by
  cases type with
  | named name => rfl
  | list element => rfl
  | nonNull inner =>
    simp only [isWritable, Bool.and_eq_true, Bool.not_eq_true'] at h
    exact h.1

namespace Sdl

/-- The mark of a non-null reference makes no doubled wrapper behind a name or a list. -/
theorem isWritable_scanNonNull (type : TypeRef) (h : type.isWritable)
    (hsingle : ∀ inner, type ≠ .nonNull inner) (cs : List Char) :
    (scanNonNull type cs).1.isWritable := by
  cases cs with
  | nil => exact h
  | cons c rest =>
    by_cases hmark : c = '!'
    · cases type <;> simp_all [scanNonNull, TypeRef.isWritable, TypeRef.isDoubledNonNull]
    · simpa [scanNonNull, hmark] using h

/-- What a scan for a type reference takes can be written. -/
theorem isWritable_of_scanType {cs : List Char} {type : TypeRef} {rest : List Char}
    (h : scanType cs = some (type, rest)) : type.isWritable := by
  induction cs using scanType.induct generalizing type rest with
  | case1 inner element tail hinner ih =>
    simp only [scanType, hinner, Option.some.injEq] at h
    have helement : element.isWritable := ih hinner
    simpa [h] using isWritable_scanNonNull (.list element) helement (by simp) tail
  | case2 inner hinner ih =>
    simp only [scanType] at h
    cases h
  | case3 cs hbracket name tail hname =>
    rw [scanType.eq_def] at h
    simp only [hname, Option.some.injEq] at h
    have hwritten : isName name := isName_of_scanName hname
    simpa [h] using isWritable_scanNonNull (.named name) hwritten (by simp) tail
  | case4 cs hbracket hname =>
    simp [scanType, hname] at h

namespace Reader

/-- The reader of names yields names. -/
theorem yields_name : name.Yields fun text => isName text :=
  (Yields.ofScan fun _ _ _ h => isName_of_scanName h).rule

/-- The reader of type references yields references that can be written. -/
theorem yields_typeRef : typeRef.Yields fun type => type.isWritable :=
  (Yields.ofScan fun _ _ _ h => isWritable_of_scanType h).rule

end Reader

end Sdl

end SdlCodegen
