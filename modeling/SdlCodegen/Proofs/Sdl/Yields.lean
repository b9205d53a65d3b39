import SdlCodegen.Sdl.Lexeme

/-!
# What readers yield

A property of the values that a reader gives, whatever the text and wherever the reader begins. It
passes through the combinators, so a property of what a rule of the grammar gives follows the way
the rule is written. Nothing is said of where a reader ends or of whether it succeeds.
-/

namespace SdlCodegen.Sdl.Reader

variable {α β : Type} {P : α → Prop} {Q : β → Prop}

/-- Every value that the reader gives, in any place of any text, has the property. -/
def Yields (reader : Reader α) (P : α → Prop) : Prop :=
  ∀ cursor value after, (reader cursor).value = some (value, after) → P value

/-- Every reader yields values. -/
theorem Yields.trivial (reader : Reader α) : reader.Yields fun _ => True :=
  fun _ _ _ _ => True.intro

/-- A reader that reads nothing yields its value. -/
theorem Yields.pure {value : α} (h : P value) : Yields (Pure.pure value) P := by
  intro cursor result after heq
  change some (value, cursor) = some (result, after) at heq
  cases heq
  exact h

/-- A sequence yields what its last part yields after every value of the first. -/
theorem Yields.bind {first : Reader β} {next : β → Reader α} (hfirst : first.Yields Q)
    (hnext : ∀ value, Q value → (next value).Yields P) : Yields (first >>= next) P := by
  intro cursor result after heq
  change (andThen first next cursor).value = some (result, after) at heq
  unfold andThen at heq
  cases hread : (first cursor).value with
  | none => simp [hread] at heq
  | some read =>
    obtain ⟨value, rest⟩ := read
    simp only [hread] at heq
    exact hnext value (hfirst cursor value rest hread) rest result after heq

/-- A sequence yields what its last part yields, if the first part does not matter. -/
theorem Yields.then {first : Reader β} {next : β → Reader α}
    (hnext : ∀ value, (next value).Yields P) : Yields (first >>= next) P :=
  (Yields.trivial first).bind fun value _ => hnext value

/-- An ordered choice yields what both alternatives yield. -/
theorem Yields.orElse {first second : Reader α} (hfirst : first.Yields P)
    (hsecond : second.Yields P) : Yields (first <|> second) P := by
  intro cursor result after heq
  change (Reader.orElse first second cursor).value = some (result, after) at heq
  unfold Reader.orElse at heq
  cases hread : (first cursor).value with
  | none => exact hsecond cursor result after (by simpa [hread] using heq)
  | some read => exact hfirst cursor result after (by simpa [hread] using heq)

/-- A rule yields what its body yields. -/
theorem Yields.rule {reader : Reader α} (h : reader.Yields P) : (rule reader).Yields P := by
  intro cursor result after heq
  unfold Reader.rule at heq
  cases hread : (reader cursor).value with
  | none => simp [hread] at heq
  | some read => exact h cursor result after (by simpa [hread] using heq)

/-- A scan yields what it gives on every text. -/
theorem Yields.ofScan {scan : List Char → Option (α × List Char)}
    (h : ∀ cs value rest, scan cs = some (value, rest) → P value) : (ofScan scan).Yields P := by
  intro cursor result after heq
  unfold Reader.ofScan at heq
  cases hscan : scan cursor.rest with
  | none => simp [hscan] at heq
  | some read =>
    obtain ⟨value, rest⟩ := read
    simp only [hscan, Option.some.injEq, Prod.mk.injEq] at heq
    exact heq.1 ▸ h cursor.rest value rest hscan

/-- What may be there has the property if it is there. -/
theorem Yields.optional {reader : Reader α} (h : reader.Yields P) :
    (optional reader).Yields fun found => ∀ value ∈ found, P value :=
  Yields.orElse (h.bind fun value hvalue => Yields.pure (by simpa using hvalue))
    (Yields.pure (by simp))

/-- All values of a repetition have the property, whatever bounds the turns. -/
theorem Yields.repeatUpTo {step : Reader α} (h : step.Yields P) (turns : Nat) :
    (repeatUpTo turns step).Yields fun values => ∀ value ∈ values, P value := by
  induction turns with
  | zero => exact Yields.pure (by simp)
  | succ turns ih =>
    intro cursor result after heq
    unfold Reader.repeatUpTo at heq
    cases hread : (step cursor).value with
    | none =>
      simp only [hread, Option.some.injEq, Prod.mk.injEq] at heq
      simp [← heq.1]
    | some read =>
      obtain ⟨value, rest⟩ := read
      simp only [hread, Option.map_eq_some_iff] at heq
      obtain ⟨⟨values, last⟩, hvalues, heq⟩ := heq
      simp only [Prod.mk.injEq] at heq
      rw [← heq.1]
      exact List.forall_mem_cons.mpr
        ⟨h cursor value rest hread, ih rest values last hvalues⟩

/-- All things that are read as often as they are there have the property. -/
theorem Yields.list {item : Reader α} (h : item.Yields P) :
    (list item).Yields fun values => ∀ value ∈ values, P value := fun cursor =>
  Yields.repeatUpTo (h.bind fun _ hvalue => Yields.then fun _ => Yields.pure hvalue) _ cursor

/-- All things that are read once or more have the property. -/
theorem Yields.list1 {item : Reader α} (h : item.Yields P) :
    (list1 item).Yields fun values => ∀ value ∈ values, P value :=
  h.bind fun _ hfirst => Yields.then fun _ => h.list.bind fun _ hothers =>
    Yields.pure (List.forall_mem_cons.mpr ⟨hfirst, hothers⟩)

end SdlCodegen.Sdl.Reader
