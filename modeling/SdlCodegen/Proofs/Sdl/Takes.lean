import SdlCodegen.Sdl.Lexeme

/-!
# What readers take

A reader takes a value from the front of a text and leaves the rest, or it refuses the text. Both
are stated for a text wherever it stands in a whole, so offsets do not occur. They pass through the
combinators in the order in which those try their parts: for a part that is not there it has to be
known that it is refused, since an ordered choice never comes back to its other alternatives.
-/

namespace SdlCodegen.Sdl.Reader

variable {α β : Type} {before middle after : List Char}

/-- In front of a text the reader gives a value and leaves the rest. -/
def Takes (reader : Reader α) (before : List Char) (value : α) (after : List Char) : Prop :=
  ∀ offset, ∃ next, (reader ⟨before, offset⟩).value = some (value, ⟨after, next⟩)

/-- In front of a text the reader gives nothing. -/
def Refuses (reader : Reader α) (before : List Char) : Prop :=
  ∀ offset, (reader ⟨before, offset⟩).value = none

/-- A reader that reads nothing takes nothing. -/
theorem Takes.pure {value : α} : Takes (Pure.pure value) before value before :=
  fun offset => ⟨offset, rfl⟩

/-- A sequence takes what its parts take one behind the other. -/
theorem Takes.bind {first : Reader β} {next : β → Reader α} {value : β} {result : α}
    (hfirst : first.Takes before value middle) (hnext : (next value).Takes middle result after) :
    (first >>= next).Takes before result after := by
  intro offset
  obtain ⟨between, hread⟩ := hfirst offset
  obtain ⟨last, hlast⟩ := hnext between
  refine ⟨last, ?_⟩
  change (andThen first next ⟨before, offset⟩).value = _
  simpa only [andThen, hread] using hlast

/-- A sequence refuses what its first part refuses. -/
theorem Refuses.bind {first : Reader β} {next : β → Reader α} (hfirst : first.Refuses before) :
    (first >>= next).Refuses before := by
  intro offset
  change (andThen first next ⟨before, offset⟩).value = none
  simp only [andThen, hfirst offset]

/-- A sequence refuses a text if its second part refuses what the first one leaves. -/
theorem Takes.bind_refuses {first : Reader β} {next : β → Reader α} {value : β}
    (hfirst : first.Takes before value middle) (hnext : (next value).Refuses middle) :
    (first >>= next).Refuses before := by
  intro offset
  obtain ⟨between, hread⟩ := hfirst offset
  change (andThen first next ⟨before, offset⟩).value = none
  simpa only [andThen, hread] using hnext between

/-- A rule takes what its body takes. -/
theorem Takes.rule {reader : Reader α} {value : α} (h : reader.Takes before value after) :
    (rule reader).Takes before value after := by
  intro offset
  obtain ⟨next, hread⟩ := h offset
  refine ⟨next, ?_⟩
  simp only [Reader.rule, hread]

/-- A rule refuses what its body refuses. -/
theorem Refuses.rule {reader : Reader α} (h : reader.Refuses before) :
    (rule reader).Refuses before := by
  intro offset
  simp only [Reader.rule, h offset]

/-- A choice takes what its first alternative takes. -/
theorem Takes.orElse {first second : Reader α} {value : α} (h : first.Takes before value after) :
    (first <|> second).Takes before value after := by
  intro offset
  obtain ⟨next, hread⟩ := h offset
  refine ⟨next, ?_⟩
  change (Reader.orElse first second ⟨before, offset⟩).value = _
  simp only [Reader.orElse, hread]

/-- A choice takes what its second alternative takes if the first one refuses. -/
theorem Refuses.orElse_takes {first second : Reader α} {value : α} (hfirst : first.Refuses before)
    (hsecond : second.Takes before value after) : (first <|> second).Takes before value after := by
  intro offset
  obtain ⟨next, hread⟩ := hsecond offset
  refine ⟨next, ?_⟩
  change (Reader.orElse first second ⟨before, offset⟩).value = _
  simpa only [Reader.orElse, hfirst offset] using hread

/-- A choice refuses what both alternatives refuse. -/
theorem Refuses.orElse {first second : Reader α} (hfirst : first.Refuses before)
    (hsecond : second.Refuses before) : (first <|> second).Refuses before := by
  intro offset
  change (Reader.orElse first second ⟨before, offset⟩).value = none
  simpa only [Reader.orElse, hfirst offset] using hsecond offset

/-- What may be there is taken if it is there. -/
theorem Takes.optional {reader : Reader α} {value : α} (h : reader.Takes before value after) :
    (optional reader).Takes before (some value) after := by
  have hsome : (reader >>= fun found => Pure.pure (some found)).Takes before (some value) after :=
    h.bind Takes.pure
  exact hsome.orElse

/-- What may be there is passed over if it is not there. -/
theorem Refuses.optional {reader : Reader α} (h : reader.Refuses before) :
    (optional reader).Takes before none before :=
  Refuses.orElse_takes h.bind Takes.pure

/-- A scan takes what it gives. -/
theorem Takes.ofScan {scan : List Char → Option (α × List Char)} {value : α}
    (h : scan before = some (value, after)) : (ofScan scan).Takes before value after := by
  intro offset
  simp only [Reader.ofScan, h]
  exact ⟨_, rfl⟩

/-- A scan refuses what it fails on. -/
theorem Refuses.ofScan {scan : List Char → Option (α × List Char)} (h : scan before = none) :
    (ofScan scan).Refuses before := by
  intro offset
  simp only [Reader.ofScan, h]

/-- The end of the text is taken where nothing is left. -/
theorem Takes.atEnd : atEnd.Takes [] () [] :=
  fun offset => ⟨offset, rfl⟩

/-- A thing is taken as often as it is there: it is taken from the front of a text value by value,
and what is left is refused. Every value takes at least one character. -/
inductive TakesAll (item : Reader α) : List Char → List α → List Char → Prop where
  | nil {before : List Char} (hend : item.Refuses before) : TakesAll item before [] before
  | cons {before middle after : List Char} {value : α} {values : List α}
      (hitem : item.Takes before value middle) (hshorter : middle.length < before.length)
      (hrest : TakesAll item middle values after) : TakesAll item before (value :: values) after

/-- A repetition takes all that is there, for a turn per character and one more are enough. -/
theorem TakesAll.many {step : Reader α} {values : List α} (h : TakesAll step before values after) :
    (many step).Takes before values after := by
  have hturns :
      ∀ turns, before.length < turns → (repeatUpTo turns step).Takes before values after := by
    induction h with
    | nil hend =>
      intro turns hturns offset
      obtain ⟨turns, rfl⟩ := Nat.exists_eq_succ_of_ne_zero (Nat.ne_zero_of_lt hturns)
      refine ⟨offset, ?_⟩
      simp only [repeatUpTo, hend offset]
    | cons hitem hshorter _ ih =>
      intro turns hturns offset
      obtain ⟨turns, rfl⟩ := Nat.exists_eq_succ_of_ne_zero (Nat.ne_zero_of_lt hturns)
      obtain ⟨between, hread⟩ := hitem offset
      obtain ⟨last, hlast⟩ := ih turns (by omega) between
      refine ⟨last, ?_⟩
      simp only [repeatUpTo, hread, hlast]
      rfl
  exact fun offset => hturns (before.length + 1) (Nat.lt_succ_self _) offset

/-- Given characters are taken where they stand. -/
theorem takes_word (text : String) (rest : List Char) :
    (word text).Takes (text.toList ++ rest) () rest := by
  have hskip : ∀ cs : List Char, skipWord cs (cs ++ rest) = some rest := by
    intro cs
    induction cs with
    | nil => rfl
    | cons c cs ih => simpa [skipWord] using ih
  apply Takes.ofScan
  rw [hskip]
  rfl

/-- Given characters are refused where others stand. -/
theorem refuses_word {text : String} (h : skipWord text.toList before = none) :
    (word text).Refuses before := by
  apply Refuses.ofScan
  rw [h]
  rfl

/-- All blanks in front are taken. -/
theorem takes_blanks (h : skipBlanks false before = after) : blanks.Takes before () after :=
  Takes.ofScan (by rw [h])

end SdlCodegen.Sdl.Reader
