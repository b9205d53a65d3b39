import SdlCodegen.CommandLine
import SdlCodegen.Proofs.Fallible

/-!
# The command line without its output option

Leaving the output option and its value out of a command line that can be read leaves one that asks
for the same without an output. The two are read side by side. An option may still be open in the
shorter one where the output option has closed it in the longer one, so the drafts are compared by
what they are once the open option is set.
-/

namespace SdlCodegen

namespace CommandLine

open Fallible

/-- The command line without the output option and its value. Behind the separator all are
inputs. -/
def withoutOutput : List String → List String
  | [] => []
  | text :: rest =>
    match Argument.ofString text with
    | .separator => text :: rest
    | .option .output (some _) => withoutOutput rest
    | .option .output none =>
      match rest with
      | [] => []
      | _ :: rest => withoutOutput rest
    | _ => text :: withoutOutput rest

/-- From the separator on, everything is left. -/
theorem withoutOutput_separator {text : String} (h : Argument.ofString text = .separator)
    (rest : List String) : withoutOutput (text :: rest) = text :: rest := by
  cases rest <;> simp [withoutOutput, h]

/-- The output option goes with the value it has in the same argument. -/
theorem withoutOutput_attached {text value : String}
    (h : Argument.ofString text = .option .output (some value)) (rest : List String) :
    withoutOutput (text :: rest) = withoutOutput rest := by
  cases rest <;> simp [withoutOutput, h]

/-- The output option goes with its value in the next argument. -/
theorem withoutOutput_separate {text : String} (h : Argument.ofString text = .option .output none)
    (value : String) (rest : List String) :
    withoutOutput (text :: value :: rest) = withoutOutput rest := by
  simp [withoutOutput, h]

/-- Any other argument is left. -/
theorem withoutOutput_cons {text : String} (hseparator : Argument.ofString text ≠ .separator)
    (hother : ∀ attached, Argument.ofString text ≠ .option .output attached) (rest : List String) :
    withoutOutput (text :: rest) = text :: withoutOutput rest := by
  cases rest <;>
  · simp only [withoutOutput]
    split
    · next heq => exact absurd heq hseparator
    · next heq => exact absurd heq (hother _)
    · next heq => exact absurd heq (hother _)
    · rfl

namespace Draft

variable {draft fewer next settled : Draft} {option : ValueOption} {value : String}

/-- The draft as if no output had been given. -/
def withoutOutput (draft : Draft) : Draft := { draft with output := none }

/-- Without an open option there is nothing to set. -/
theorem settle_of_pending_eq_none (h : draft.pending = none) : draft.settle = .ok draft := by
  simp [settle, h]

/-- An open option that still waits for its value cannot be set. -/
theorem settle_of_waiting (h : draft.pending = some (option, none)) :
    draft.settle = .error .invalidValue := by
  simp [settle, h]

/-- A draft that can be set does not wait for a value. -/
theorem not_waiting_of_settle (h : draft.settle = .ok settled) :
    ¬ ∃ option, draft.pending = some (option, none) := by
  rintro ⟨option, hwaiting⟩
  rw [settle_of_waiting hwaiting] at h
  cases h

/-- An open option that waits takes a plain argument as its value. -/
theorem add_plain_of_waiting (h : draft.pending = some (option, none)) (text : String) :
    draft.add (.plain text) = .ok { draft with pending := some (option, some text) } := by
  simp [add, h]

/-- Where no option waits, a plain argument is an input. -/
theorem add_plain_of_not_waiting (h : ¬ ∃ option, draft.pending = some (option, none))
    (text : String) : draft.add (.plain text) = draft.addInput text := by
  unfold add
  dsimp only
  split
  · next option hwaiting => exact absurd ⟨option, hwaiting⟩ h
  · rfl

/-- Behind the separator every argument is an input. -/
theorem addAll_separator {text : String} (h : Argument.ofString text = .separator)
    (rest : List String) : draft.addAll (text :: rest) = rest.foldlM addInput draft := by
  simp [addAll, h]

/-- Any other argument is taken in before the rest. -/
theorem addAll_cons {text : String} {argument : Argument} (h : Argument.ofString text = argument)
    (hseparator : argument ≠ .separator) (rest : List String) :
    draft.addAll (text :: rest) = draft.add argument >>= fun next => next.addAll rest := by
  subst h
  rw [addAll]
  split
  · next heq => exact absurd heq hseparator
  · rfl

/-- What follows on a waiting draft that has to be set fails. -/
theorem settle_bind_ne_ok_of_waiting (h : draft.pending = some (option, none)) {α : Type}
    {rest : Draft → Except Stop α} {result : α} : (draft.settle >>= rest) ≠ .ok result := by
  rw [settle_of_waiting h]
  nofun

/-- A waiting draft takes in no argument but its value. -/
theorem exists_plain_of_add (h : draft.pending = some (option, none)) {argument : Argument}
    (hseparator : argument ≠ .separator) (hadd : draft.add argument = .ok next) :
    ∃ value, argument = .plain value := by
  cases argument with
  | plain value => exact ⟨value, rfl⟩
  | separator => exact absurd rfl hseparator
  | option other attached => cases attached <;> exact absurd hadd (settle_bind_ne_ok_of_waiting h)
  | flag flag attached =>
    cases attached with
    | some value => cases hadd
    | none => exact absurd hadd (settle_bind_ne_ok_of_waiting h)
  | unknown => cases hadd

/-- A command line that can be read goes on with a value while an option waits for one. -/
theorem exists_plain_of_waiting (h : draft.pending = some (option, none))
    {commandLine : List String} {arguments : Arguments}
    (hread : (draft.addAll commandLine >>= finish) = .ok arguments) :
    ∃ text value rest, commandLine = text :: rest ∧ Argument.ofString text = .plain value := by
  cases commandLine with
  | nil => exact absurd hread (settle_bind_ne_ok_of_waiting h)
  | cons text rest =>
    obtain ⟨last, hlast, hfinish⟩ := bind_eq_ok.mp hread
    by_cases hform : Argument.ofString text = .separator
    · rw [addAll_separator hform] at hlast
      cases rest with
      | nil =>
        cases hlast
        exact absurd hfinish (settle_bind_ne_ok_of_waiting h)
      | cons input inputs =>
        obtain ⟨middle, hmiddle, -⟩ := bind_eq_ok.mp hlast
        exact absurd hmiddle (settle_bind_ne_ok_of_waiting h)
    · rw [addAll_cons rfl hform] at hlast
      obtain ⟨middle, hmiddle, -⟩ := bind_eq_ok.mp hlast
      obtain ⟨value, hplain⟩ := exists_plain_of_add h hform hmiddle
      exact ⟨text, value, rest, rfl, hplain⟩

/-- An option without a value in the same argument waits for it. -/
theorem pending_of_add_option (h : draft.add (.option option none) = .ok next) :
    next.pending = some (option, none) := by
  obtain ⟨settled, -, hopen⟩ := bind_eq_ok.mp h
  cases hopen
  rfl

/-- Setting an option opens none and closes none. -/
theorem pending_of_set (h : draft.set option value = .ok next) : next.pending = draft.pending := by
  cases option with
  | output | queryType =>
    simp only [set] at h
    split_ifs at h
    cases h
    rfl
  | unsupportedKinds =>
    simp only [set] at h
    split_ifs at h
    split at h <;> cases h
    rfl

/-- No option is open once it is set. -/
theorem pending_of_settle (h : draft.settle = .ok settled) : settled.pending = none := by
  unfold settle at h
  split at h
  · next hpending =>
    cases h
    exact hpending
  · cases h
  · exact pending_of_set h

/-- Setting another option does not look at the output. -/
theorem set_withoutOutput (hoption : option ≠ .output) (h : draft.set option value = .ok next) :
    draft.withoutOutput.set option value = .ok next.withoutOutput := by
  cases option with
  | output => exact absurd rfl hoption
  | queryType =>
    simp only [set] at h
    split_ifs at h with hset
    cases h
    exact if_neg hset
  | unsupportedKinds =>
    simp only [set] at h
    split_ifs at h with hset
    split at h
    · next action haction =>
      cases h
      simp only [set, withoutOutput, haction]
      exact if_neg hset
    · cases h

/-- Setting the output changes nothing else. -/
theorem withoutOutput_of_set_output (h : draft.set .output value = .ok next) :
    next.withoutOutput = draft.withoutOutput := by
  simp only [set] at h
  split_ifs at h
  cases h
  rfl

/-- Two drafts are the same but for the output, once their open options are set. They wait for the
value of the same option. -/
structure Lacks (draft fewer : Draft) : Prop where
  settle : ∀ settled, draft.settle = .ok settled → fewer.settle = .ok settled.withoutOutput
  waiting : ∀ option, draft.pending = some (option, none) →
    option ≠ .output ∧ fewer = draft.withoutOutput

namespace Lacks

/-- Where no option is open, the drafts are to be the same once the shorter one is set. -/
theorem of_pending_eq_none (hpending : draft.pending = none)
    (h : fewer.settle = .ok draft.withoutOutput) : Lacks draft fewer where
  settle settled hsettled := by
    rw [settle_of_pending_eq_none hpending] at hsettled
    cases hsettled
    exact h
  waiting option hwaiting := by simp [hpending] at hwaiting

/-- A draft without an open option, and the same without its output. -/
theorem self (hpending : draft.pending = none) : Lacks draft draft.withoutOutput :=
  of_pending_eq_none hpending (settle_of_pending_eq_none hpending)

/-- An input is taken in by both. -/
theorem addInput {input : String} (h : Lacks draft fewer) (hadd : draft.addInput input = .ok next) :
    ∃ kept, fewer.addInput input = .ok kept ∧ Lacks next kept := by
  obtain ⟨settled, hsettled, hnext⟩ := bind_eq_ok.mp hadd
  cases hnext
  refine ⟨_, bind_eq_ok.mpr ⟨_, h.settle _ hsettled, rfl⟩, self ?_⟩
  exact (pending_of_settle hsettled :)

/-- Inputs behind the separator are taken in by both. -/
theorem addInputs {inputs : List String} (h : Lacks draft fewer)
    (hadd : inputs.foldlM Draft.addInput draft = .ok next) :
    ∃ kept, inputs.foldlM Draft.addInput fewer = .ok kept ∧ Lacks next kept := by
  induction inputs generalizing draft fewer with
  | nil =>
    cases hadd
    exact ⟨fewer, rfl, h⟩
  | cons input inputs ih =>
    obtain ⟨middle, hmiddle, hrest⟩ := bind_eq_ok.mp hadd
    obtain ⟨kept, hkept, hlacks⟩ := h.addInput hmiddle
    obtain ⟨last, hlast, hend⟩ := ih hlacks hrest
    exact ⟨last, bind_eq_ok.mpr ⟨kept, hkept, hlast⟩, hend⟩

/-- An argument that is not the output option is taken in by both. -/
theorem add {argument : Argument} (h : Lacks draft fewer)
    (hother : ∀ attached, argument ≠ .option .output attached)
    (hadd : draft.add argument = .ok next) :
    ∃ kept, fewer.add argument = .ok kept ∧ Lacks next kept := by
  cases argument with
  | plain text =>
    by_cases hwaits : ∃ option, draft.pending = some (option, none)
    · obtain ⟨option, hwaiting⟩ := hwaits
      obtain ⟨hoption, rfl⟩ := h.waiting option hwaiting
      rw [add_plain_of_waiting hwaiting] at hadd
      cases hadd
      have hopen : draft.withoutOutput.pending = some (option, none) := hwaiting
      refine ⟨_, add_plain_of_waiting hopen text, ?_, ?_⟩
      · intro settled hsettled
        exact set_withoutOutput hoption hsettled
      · intro other hother
        cases hother
    · rw [add_plain_of_not_waiting hwaits] at hadd
      obtain ⟨settled, hsettled, -⟩ := bind_eq_ok.mp hadd
      rw [add_plain_of_not_waiting (not_waiting_of_settle (h.settle _ hsettled))]
      exact h.addInput hadd
  | separator =>
    cases hadd
    exact ⟨fewer, rfl, h⟩
  | option option attached =>
    have hoption : option ≠ .output := fun heq => hother attached (heq ▸ rfl)
    cases attached with
    | some value =>
      obtain ⟨settled, hsettled, hset⟩ := bind_eq_ok.mp hadd
      refine ⟨_, bind_eq_ok.mpr ⟨_, h.settle _ hsettled, set_withoutOutput hoption hset⟩, self ?_⟩
      rw [pending_of_set hset, pending_of_settle hsettled]
    | none =>
      obtain ⟨settled, hsettled, hnext⟩ := bind_eq_ok.mp hadd
      cases hnext
      refine ⟨_, bind_eq_ok.mpr ⟨_, h.settle _ hsettled, rfl⟩, ?_, ?_⟩
      · intro other hother
        cases hother
      · rintro other ⟨⟩
        exact ⟨hoption, rfl⟩
  | flag flag attached =>
    cases attached with
    | some value => cases hadd
    | none =>
      obtain ⟨settled, hsettled, hflag⟩ := bind_eq_ok.mp hadd
      cases flag with
      | help => cases hflag
      | version => cases hflag
      | prelude =>
        dsimp only at hflag
        split_ifs at hflag with hprelude
        cases hflag
        refine ⟨_, bind_eq_ok.mpr ⟨_, h.settle _ hsettled, if_neg hprelude⟩, self ?_⟩
        exact (pending_of_settle hsettled :)
  | unknown => cases hadd

/-- The output option with its value in the same argument only sets the open option. -/
theorem add_output (h : Lacks draft fewer)
    (hadd : draft.add (.option .output (some value)) = .ok next) :
    Lacks next fewer := by
  obtain ⟨settled, hsettled, hset⟩ := bind_eq_ok.mp hadd
  refine of_pending_eq_none ?_ ?_
  · rw [pending_of_set hset, pending_of_settle hsettled]
  · rw [withoutOutput_of_set_output hset, h.settle _ hsettled]

/-- So does the output option with its value in the next argument. -/
theorem add_output_plain {text : String} {middle : Draft} (h : Lacks draft fewer)
    (hoption : draft.add (.option .output none) = .ok middle)
    (hvalue : middle.add (.plain text) = .ok next) : Lacks next fewer := by
  obtain ⟨settled, hsettled, hmiddle⟩ := bind_eq_ok.mp hoption
  cases hmiddle
  rw [add_plain_of_waiting rfl] at hvalue
  cases hvalue
  refine ⟨?_, ?_⟩
  · intro last hlast
    -- The open output is set on the draft as it was before the option.
    have hset : ({ settled with pending := none } : Draft).set .output text = .ok last := hlast
    have hsame : ({ settled with pending := none } : Draft) = settled := by
      rw [← pending_of_settle hsettled]
    rw [hsame] at hset
    rw [withoutOutput_of_set_output hset, h.settle _ hsettled]
  · intro other hother
    cases hother

/-- Both ask for the same but for the output. -/
theorem finish {arguments : Arguments} (h : Lacks draft fewer)
    (hfinish : draft.finish = .ok arguments) :
    fewer.finish = .ok { arguments with output := none } := by
  obtain ⟨settled, hsettled, hrest⟩ := bind_eq_ok.mp hfinish
  refine bind_eq_ok.mpr ⟨_, h.settle _ hsettled, ?_⟩
  split_ifs at hrest with hinputs
  cases hrest
  exact if_neg hinputs

/-- After the arguments that are left, both ask for the same but for the output. -/
theorem addAll_finish {commandLine : List String} {arguments : Arguments} (h : Lacks draft fewer)
    (hread : (draft.addAll commandLine >>= Draft.finish) = .ok arguments) :
    (fewer.addAll (CommandLine.withoutOutput commandLine) >>= Draft.finish) =
      .ok { arguments with output := none } := by
  induction commandLine using CommandLine.withoutOutput.induct generalizing draft fewer with
  | case1 => exact h.finish hread
  | case2 text rest hform =>
    rw [addAll_separator hform] at hread
    rw [withoutOutput_separator hform, addAll_separator hform]
    obtain ⟨last, hlast, hfinish⟩ := bind_eq_ok.mp hread
    obtain ⟨kept, hkept, hlacks⟩ := h.addInputs hlast
    exact bind_eq_ok.mpr ⟨kept, hkept, hlacks.finish hfinish⟩
  | case3 text rest value hform ih =>
    rw [addAll_cons hform nofun, bind_assoc] at hread
    obtain ⟨middle, hmiddle, hrest⟩ := bind_eq_ok.mp hread
    rw [withoutOutput_attached hform]
    exact ih (h.add_output hmiddle) hrest
  | case4 text hform =>
    rw [addAll_cons hform nofun, bind_assoc] at hread
    obtain ⟨middle, hmiddle, hrest⟩ := bind_eq_ok.mp hread
    obtain ⟨_, _, _, hmore, -⟩ := exists_plain_of_waiting (pending_of_add_option hmiddle) hrest
    cases hmore
  | case5 text hform value rest ih =>
    rw [addAll_cons hform nofun, bind_assoc] at hread
    obtain ⟨middle, hmiddle, hrest⟩ := bind_eq_ok.mp hread
    obtain ⟨_, plain, _, hmore, hplain⟩ :=
      exists_plain_of_waiting (pending_of_add_option hmiddle) hrest
    cases hmore
    rw [addAll_cons hplain nofun, bind_assoc] at hrest
    obtain ⟨last, hlast, hfinish⟩ := bind_eq_ok.mp hrest
    rw [withoutOutput_separate hform]
    exact ih (h.add_output_plain hmiddle hlast) hfinish
  | case6 text rest hseparator hvalue hnone ih =>
    have hother : ∀ attached, Argument.ofString text ≠ .option .output attached := by
      rintro (_ | value) hform
      · exact hnone hform
      · exact hvalue value hform
    rw [addAll_cons rfl hseparator, bind_assoc] at hread
    obtain ⟨middle, hmiddle, hrest⟩ := bind_eq_ok.mp hread
    obtain ⟨kept, hkept, hlacks⟩ := h.add hother hmiddle
    rw [withoutOutput_cons hseparator hother, addAll_cons rfl hseparator, bind_assoc]
    exact bind_eq_ok.mpr ⟨kept, hkept, ih hlacks hrest⟩

end Lacks

end Draft

/-- A command line that can be read can be read without the output option, and then asks for the
same without an output. -/
theorem parse_withoutOutput {commandLine : List String} {arguments : Arguments}
    (h : parse commandLine = .ok arguments) :
    parse (withoutOutput commandLine) = .ok { arguments with output := none } :=
  (Draft.Lacks.self rfl).addAll_finish h

end CommandLine

end SdlCodegen
