import SdlCodegen.Proofs.TypeExpr

/-!
# What a reference resolves to

A reference that resolves gives its name under one sequence per list wrapper, and this is optional
unless the outermost wrapper is non-null. All other non-null wrappers leave no trace. The only
references that do not resolve are those with two non-null wrappers outermost.

The written type can be read in one way only, even if a type of the schema is called like one
of the generic types, so it tells the name, the number of lists and whether there may be
nothing, and no more.
-/

namespace SdlCodegen

namespace TypeRef

/-- Whether the outermost wrapper is non-null. -/
def isNonNull : TypeRef → Bool
  | nonNull _ => true
  | _ => false

/-- The name in a reference under one sequence per list wrapper. -/
def element (type : TypeRef) : TypeExpr :=
  .wrap (List.replicate type.listDepth "Vec") type.leaf

/-- The type expression of a reference: its element, optional unless the outermost
wrapper is non-null. -/
def expression (type : TypeRef) : TypeExpr :=
  if type.isNonNull then type.element else .optional type.element

/-- A doubled non-null wrapper is one directly under another. -/
theorem isDoubledNonNull_iff {type : TypeRef} :
    type.isDoubledNonNull ↔ ∃ inner, type = .nonNull (.nonNull inner) := by
  unfold isDoubledNonNull
  split <;> simp_all

/-- Inside a list only the list wrappers count. -/
theorem resolveElement_eq_element (type : TypeRef) : type.resolveElement = type.element := by
  induction type with
  | named name => rfl
  | list inner ih =>
    rw [resolveElement, ih]
    rfl
  | nonNull inner ih =>
    rw [resolveElement, ih]
    rfl

/-- A reference resolves to its expression, unless its two outermost wrappers are non-null. -/
theorem resolve_eq (type : TypeRef) :
    type.resolve = if type.isDoubledNonNull then .error ⟨type⟩ else .ok type.expression := by
  cases type with
  | named name => rfl
  | list inner =>
    rw [resolve, resolveElement_eq_element]
    rfl
  | nonNull inner =>
    cases inner with
    | named name => rfl
    | list inner =>
      rw [resolve, resolveElement_eq_element]
      rfl
    | nonNull inner => rfl

/-- A reference resolves exactly if its two outermost wrappers are not both non-null. -/
theorem isDoubledNonNull_eq_false_iff {type : TypeRef} :
    type.isDoubledNonNull = false ↔ ∃ expression, type.resolve = .ok expression := by
  rw [resolve_eq]
  cases type.isDoubledNonNull <;> simp

end TypeRef

end SdlCodegen
