import SdlCodegen.Proofs.CommandLine

/-!
# How a command line may be written

The same arguments can be written in many ways: every option has several spellings, options may
stand in any order, and inputs may stand between them or behind the separator. All of these command
lines are read as the arguments that they were written for.

The draft of a command line may still have an option open that has its value. So it is known by what
it comes to when that option is set, and one part of the command line after the other is taken in.
-/

namespace SdlCodegen

/-- The word for an action. -/
def UnsupportedAction.word : UnsupportedAction → String
  | deny => "deny"
  | warn => "warn"

namespace CommandLine

open Fallible

/-- The name of an option behind two dashes. -/
def ValueOption.longName : ValueOption → String
  | output => "output"
  | queryType => "query-type"
  | unsupportedKinds => "unsupported-kinds"

/-- A part of a command line in front of the separator. -/
inductive Part where
  | input (text : String)
  | option (option : ValueOption) (value : String)
  | prelude
  deriving DecidableEq, Repr

/-- The input that a part is. -/
def Part.input? : Part → Option String
  | input text => some text
  | _ => none

/-- The value that a part gives to an option. -/
def Part.value? (option : ValueOption) : Part → Option String
  | .option other value => if other = option then some value else none
  | _ => none

/-- Whether a text begins with a character. -/
def BeginsWith (c : Char) (text : String) : Prop :=
  text.toList.head? = some c

instance (c : Char) (text : String) : Decidable (BeginsWith c text) :=
  inferInstanceAs (Decidable (text.toList.head? = some c))

/-- The spellings of a part. -/
inductive Spells : Part → List String → Prop where
  /-- An input in front of the separator is a dash or begins with something else. -/
  | input {text : String} (h : text = "-" ∨ ¬ BeginsWith '-' text) : Spells (.input text) [text]
  | long (option : ValueOption) (value : String) :
      Spells (.option option value) ["--" ++ option.longName ++ "=" ++ value]
  | longApart (option : ValueOption) {value : String} (h : ¬ BeginsWith '-' value) :
      Spells (.option option value) ["--" ++ option.longName, value]
  | short (value : String) : Spells (.option .output value) ["-o=" ++ value]
  | shortApart {value : String} (h : ¬ BeginsWith '-' value) :
      Spells (.option .output value) ["-o", value]
  | shortAttached {value : String} (hvalue : value ≠ "") (h : ¬ BeginsWith '=' value) :
      Spells (.option .output value) ["-o" ++ value]
  | prelude : Spells .prelude ["--prelude"]

/-- The parts of a command line choose exactly the options of arguments, each of them once. The
action may go without saying if it is to refuse. -/
structure Chooses (parts : List Part) (arguments : Arguments) : Prop where
  output : parts.filterMap (·.value? .output) = arguments.output.toList
  queryType : parts.filterMap (·.value? .queryType) = arguments.queryType.toList
  unsupported :
    parts.filterMap (·.value? .unsupportedKinds) = [arguments.options.unsupported.word] ∨
    parts.filterMap (·.value? .unsupportedKinds) = [] ∧ arguments.options.unsupported = .deny
  prelude : parts.count .prelude = if arguments.options.prelude then 1 else 0

/-- A command line is a way to write arguments: parts in any order that choose the options, and
the inputs among the parts and then behind the separator, which may be missing if there are
none behind it. -/
inductive Writes (arguments : Arguments) : List String → Prop where
  | separated {parts : List Part} {words : List (List String)} {rest : List String}
      (hwords : List.Forall₂ Spells parts words) (hoptions : Chooses parts arguments)
      (hinputs : arguments.inputs = parts.filterMap (·.input?) ++ rest) :
      Writes arguments (words.flatten ++ "--" :: rest)
  | plain {parts : List Part} {words : List (List String)}
      (hwords : List.Forall₂ Spells parts words) (hoptions : Chooses parts arguments)
      (hinputs : arguments.inputs = parts.filterMap (·.input?)) :
      Writes arguments words.flatten

/-- What is a dash or does not begin with one is a plain argument. -/
theorem ofString_eq_plain {text : String} (h : text = "-" ∨ ¬ BeginsWith '-' text) :
    Argument.ofString text = .plain text := by
  rcases h with rfl | h
  · rfl
  · unfold BeginsWith at h
    unfold Argument.ofString
    split
    · next heq => simp [heq] at h
    · next heq => simp [heq] at h
    · next heq => simp [heq] at h
    · rfl

/-- A name without an equals sign is cut off at the one behind it. -/
theorem cutAtEquals_append {name : List Char} (h : '=' ∉ name) (value : List Char) :
    cutAtEquals (name ++ '=' :: value) = (String.ofList name, some (String.ofList value)) := by
  have hname : ∀ c ∈ name, (c != '=') = true := by
    intro c hc
    rw [bne_iff_ne]
    rintro rfl
    exact h hc
  simp [cutAtEquals, List.takeWhile_append_of_pos hname, List.dropWhile_append_of_pos hname]

/-- An option may be given by its long name and its value behind an equals sign. -/
theorem ofString_long (option : ValueOption) (value : String) :
    Argument.ofString ("--" ++ option.longName ++ "=" ++ value) = .option option (some value) := by
  have hname : '=' ∉ option.longName.toList := by cases option <;> decide
  have hform : Argument.ofString ("--" ++ option.longName ++ "=" ++ value) =
      .ofLong (option.longName.toList ++ '=' :: value.toList) := by
    simp [Argument.ofString]
  rw [hform, Argument.ofLong, cutAtEquals_append hname, String.ofList_toList, String.ofList_toList]
  cases option <;> rfl

/-- An option may be given by its long name alone, and then its value follows. -/
theorem ofString_longName (option : ValueOption) :
    Argument.ofString ("--" ++ option.longName) = .option option none := by
  cases option <;> decide +kernel

/-- The output may be given behind its letter and an equals sign. -/
theorem ofString_short (value : String) :
    Argument.ofString ("-o=" ++ value) = .option .output (some value) := by
  have hform : ("-o=" ++ value).toList = '-' :: 'o' :: '=' :: value.toList := by simp
  simp [Argument.ofString, hform, Argument.ofShort, shortValue]

/-- The output may be given right behind its letter. -/
theorem ofString_shortAttached {value : String} (hvalue : value ≠ "") (h : ¬ BeginsWith '=' value) :
    Argument.ofString ("-o" ++ value) = .option .output (some value) := by
  have hform : ("-o" ++ value).toList = '-' :: 'o' :: value.toList := by simp
  have hshort : shortValue value.toList = some value := by
    unfold BeginsWith at h
    unfold shortValue
    split
    · next heq => exact absurd (String.toList_eq_nil_iff.mp heq) hvalue
    · next heq => simp [heq] at h
    · rw [String.ofList_toList]
  simp [Argument.ofString, hform, Argument.ofShort, hshort]

namespace Draft

variable {draft settled next : Draft} {part : Part} {arguments : Arguments}

/-- What a part does to a draft without an open option. -/
def take (draft : Draft) : Part → Except Stop Draft
  | .input text => .ok { draft with inputs := draft.inputs ++ [text] }
  | .option option value => draft.set option value
  | .prelude => if draft.prelude then .error .repeatedOption else .ok { draft with prelude := true }

/-- A part opens no option and closes none. -/
theorem pending_of_take (h : draft.take part = .ok next) : next.pending = draft.pending := by
  cases part with
  | input text =>
    cases h
    rfl
  | option option value => exact pending_of_set h
  | prelude =>
    rw [take] at h
    split_ifs at h
    cases h
    rfl

/-- An option with its value in the same argument is taken in at once. -/
theorem addAll_attached {text : String} {option : ValueOption} {value : String}
    (hform : Argument.ofString text = .option option (some value))
    (hsettle : draft.settle = .ok settled) (hset : settled.set option value = .ok next)
    (rest : List String) :
    draft.addAll (text :: rest) = next.addAll rest := by
  rw [addAll_cons hform (by simp), add, hsettle]
  change (settled.set option value >>= fun next => next.addAll rest) = _
  rw [hset]
  rfl

/-- An option with its value in the next argument stays open behind the value, and is taken in
when it is set. -/
theorem exists_addAll_apart {text : String} {option : ValueOption} {value : String}
    (hform : Argument.ofString text = .option option none) (hvalue : ¬ BeginsWith '-' value)
    (hsettle : draft.settle = .ok settled) (hset : settled.set option value = .ok next)
    (rest : List String) :
    ∃ last : Draft, draft.addAll (text :: value :: rest) = last.addAll rest ∧
      last.settle = .ok next := by
  have hclosed : ({ settled with pending := none } : Draft) = settled := by
    rw [← pending_of_settle hsettle]
  have hopen :
      draft.add (.option option none) = .ok { settled with pending := some (option, none) } := by
    rw [add, hsettle]
    rfl
  refine ⟨{ settled with pending := some (option, some value) }, ?_, ?_⟩
  · rw [addAll_cons hform (by simp), hopen]
    change Draft.addAll _ (value :: rest) = _
    rw [addAll_cons (ofString_eq_plain (.inr hvalue)) (by simp), add_plain_of_waiting rfl]
    rfl
  · change ({ settled with pending := none } : Draft).set option value = _
    rw [hclosed, hset]

/-- Where no option waits for its value, an input is taken in. -/
theorem addInput_of_settle (hsettle : draft.settle = .ok settled) (input : String) :
    draft.addInput input = .ok { settled with inputs := settled.inputs ++ [input] } := by
  rw [addInput, hsettle]
  rfl

/-- Any spelling of a part is read as the part. -/
theorem exists_addAll_of_spells {words : List String} (h : Spells part words)
    (hsettle : draft.settle = .ok settled) (htake : settled.take part = .ok next)
    (rest : List String) :
    ∃ last : Draft, draft.addAll (words ++ rest) = last.addAll rest ∧ last.settle = .ok next := by
  have hpending : next.pending = none := (pending_of_take htake).trans (pending_of_settle hsettle)
  have hnext : next.settle = .ok next := settle_of_pending_eq_none hpending
  cases h with
  | @input text h =>
    refine ⟨next, ?_, hnext⟩
    change draft.addAll (text :: rest) = _
    rw [addAll_cons (ofString_eq_plain h) (by simp),
      add_plain_of_not_waiting (not_waiting_of_settle hsettle), addInput_of_settle hsettle]
    cases htake
    rfl
  | long option value =>
    exact ⟨next, addAll_attached (ofString_long option value) hsettle htake rest, hnext⟩
  | longApart option h => exact exists_addAll_apart (ofString_longName option) h hsettle htake rest
  | short value => exact ⟨next, addAll_attached (ofString_short value) hsettle htake rest, hnext⟩
  | shortApart h =>
    have hform : Argument.ofString "-o" = .option .output none := by decide +kernel
    exact exists_addAll_apart hform h hsettle htake rest
  | shortAttached hvalue h =>
    exact ⟨next, addAll_attached (ofString_shortAttached hvalue h) hsettle htake rest, hnext⟩
  | prelude =>
    refine ⟨next, ?_, hnext⟩
    have hform : Argument.ofString "--prelude" = .flag .prelude none := by decide +kernel
    have hflag : draft.add (.flag .prelude none) = .ok next := by
      rw [add, setFlag, hsettle]
      exact htake
    change draft.addAll ("--prelude" :: rest) = _
    rw [addAll_cons hform (by simp), hflag]
    rfl

/-- Spellings of parts are read as the parts, one after the other. -/
theorem exists_addAll_of_forall_spells {parts : List Part} {words : List (List String)}
    (h : List.Forall₂ Spells parts words) (hsettle : draft.settle = .ok settled)
    (htake : parts.foldlM take settled = .ok next) (rest : List String) :
    ∃ last : Draft, draft.addAll (words.flatten ++ rest) = last.addAll rest ∧
      last.settle = .ok next := by
  induction h generalizing draft settled with
  | nil =>
    cases htake
    exact ⟨draft, rfl, hsettle⟩
  | @cons part written parts words hpart _ ih =>
    obtain ⟨taken, htaken, hrest⟩ := bind_eq_ok.mp htake
    obtain ⟨middle, hmiddle, hsettled⟩ :=
      exists_addAll_of_spells hpart hsettle htaken (words.flatten ++ rest)
    obtain ⟨last, hlast, hend⟩ := ih hsettled hrest
    refine ⟨last, ?_, hend⟩
    rw [List.flatten_cons, List.append_assoc, hmiddle, hlast]

/-- Behind the separator all inputs are taken in. -/
theorem exists_foldlM_addInput (hsettle : draft.settle = .ok settled) (inputs : List String) :
    ∃ last : Draft, inputs.foldlM addInput draft = .ok last ∧
      last.settle = .ok { settled with inputs := settled.inputs ++ inputs } := by
  induction inputs generalizing draft settled with
  | nil => exact ⟨draft, rfl, by rw [hsettle, List.append_nil]⟩
  | cons input inputs ih =>
    have hpending : ({ settled with inputs := settled.inputs ++ [input] } : Draft).pending = none :=
      (pending_of_settle hsettle :)
    obtain ⟨last, hlast, hend⟩ := ih (settle_of_pending_eq_none hpending)
    refine ⟨last, ?_, ?_⟩
    · rw [List.foldlM_cons, addInput_of_settle hsettle]
      exact hlast
    · rw [hend]
      simp

/-- The value of an option in a draft, as it is written. -/
def value? (draft : Draft) : ValueOption → Option String
  | .output => draft.output
  | .queryType => draft.queryType
  | .unsupportedKinds => draft.unsupported.map (·.word)

/-- A value is one that an option may have. -/
def Accepts : ValueOption → String → Prop
  | .output, value => value ≠ ""
  | .queryType, _ => True
  | .unsupportedKinds, value => ∃ action : UnsupportedAction, action.word = value

/-- An option without a value takes one that it may have, and nothing else changes. -/
theorem exists_set {option : ValueOption} {value : String} (hnone : draft.value? option = none)
    (haccepts : Accepts option value) :
    ∃ next, draft.set option value = .ok next ∧ next.inputs = draft.inputs ∧
      next.prelude = draft.prelude ∧
      ∀ other, next.value? other = if other = option then some value else draft.value? other := by
  cases option with
  | output =>
    have hset : draft.output = none := hnone
    have hvalue : value ≠ "" := haccepts
    refine ⟨{ draft with output := some value }, ?_, rfl, rfl, fun other => ?_⟩
    · simp [set, hset, hvalue]
    · cases other <;> rfl
  | queryType =>
    have hset : draft.queryType = none := hnone
    refine ⟨{ draft with queryType := some value }, ?_, rfl, rfl, fun other => ?_⟩
    · simp [set, hset]
    · cases other <;> rfl
  | unsupportedKinds =>
    obtain ⟨action, rfl⟩ := haccepts
    have hset : draft.unsupported = none := Option.map_eq_none_iff.mp hnone
    have hword : unsupportedAction? action.word = some action := by cases action <;> rfl
    refine ⟨{ draft with unsupported := some action }, ?_, rfl, rfl, fun other => ?_⟩
    · simp [set, hset, hword]
    · cases other <;> rfl

/-- What a draft has and what parts add make up given leading inputs, values of options and the
flag. -/
structure Completes (draft : Draft) (parts : List Part) (inputs : List String)
    (values : ValueOption → Option String) (prelude : Bool) : Prop where
  inputs : draft.inputs ++ parts.filterMap (·.input?) = inputs
  values : ∀ option, (draft.value? option).toList ++ parts.filterMap (·.value? option) =
    (values option).toList
  prelude : draft.prelude.toNat + parts.count .prelude = prelude.toNat

namespace Completes

variable {parts : List Part} {inputs : List String} {values : ValueOption → Option String}
  {prelude : Bool}

/-- The next of the parts can be taken in, and the others make up the same behind it. -/
theorem exists_take (h : draft.Completes (part :: parts) inputs values prelude)
    (haccepts : ∀ option value, values option = some value → Accepts option value) :
    ∃ next, draft.take part = .ok next ∧ next.Completes parts inputs values prelude := by
  obtain ⟨hinputs, hvalues, hprelude⟩ := h
  cases part with
  | input text =>
    refine ⟨{ draft with inputs := draft.inputs ++ [text] }, rfl, ?_, hvalues, ?_⟩
    · simpa [Part.input?] using hinputs
    · simpa using hprelude
  | option option value =>
    have hoption := hvalues option
    rw [List.filterMap_cons_some (b := value) (by simp [Part.value?])] at hoption
    have hnone : draft.value? option = none ∧ values option = some value := by
      cases hdraft : draft.value? option <;> cases hgoal : values option <;> simp_all
    obtain ⟨next, hset, hsame, hflag, hnext⟩ := exists_set hnone.1 (haccepts option value hnone.2)
    refine ⟨next, hset, ?_, fun other => ?_, ?_⟩
    · simpa [hsame, Part.input?] using hinputs
    · by_cases hother : other = option
      · subst hother
        simpa [hnext, hnone.1] using hoption
      · have hskip := hvalues other
        rw [List.filterMap_cons_none (by simp [Part.value?, Ne.symm hother])] at hskip
        simpa [hnext, hother] using hskip
    · simpa [hflag] using hprelude
  | prelude =>
    have hfalse : draft.prelude = false := by
      cases hdraft : draft.prelude <;> cases prelude <;> simp_all
    refine ⟨{ draft with prelude := true }, by simp [take, hfalse], ?_, hvalues, ?_⟩
    · simpa [Part.input?] using hinputs
    · simpa [hfalse, Nat.add_comm] using hprelude

/-- All parts can be taken in, and then the draft has what they make up. -/
theorem exists_foldlM_take (h : draft.Completes parts inputs values prelude)
    (haccepts : ∀ option value, values option = some value → Accepts option value) :
    ∃ last, parts.foldlM take draft = .ok last ∧ last.Completes [] inputs values prelude := by
  induction parts generalizing draft with
  | nil => exact ⟨draft, rfl, h⟩
  | cons part parts ih =>
    obtain ⟨next, hnext, hrest⟩ := h.exists_take haccepts
    obtain ⟨last, hlast, hend⟩ := ih hrest
    exact ⟨last, bind_eq_ok.mpr ⟨next, hnext, hlast⟩, hend⟩

end Completes

/-- A draft is finished as the one that it comes to, if that has an input. -/
theorem finish_of_settle (hsettle : draft.settle = .ok settled) (hinputs : settled.inputs ≠ []) :
    draft.finish = .ok ⟨settled.inputs, settled.output, settled.queryType,
      ⟨settled.unsupported.getD .deny, settled.prelude⟩⟩ := by
  rw [finish, hsettle]
  exact if_neg (by simpa using hinputs)

end Draft

/-- The values that options are written with, given the action if it is written. -/
def writtenValues (arguments : Arguments) (spoken : Option UnsupportedAction) :
    ValueOption → Option String
  | .output => arguments.output
  | .queryType => arguments.queryType
  | .unsupportedKinds => spoken.map (·.word)

/-- An action has a word of its own. -/
theorem word_injective : Function.Injective UnsupportedAction.word := by
  intro first second h
  cases first <;> cases second <;> first | rfl | exact absurd h (by decide)

/-- Parts that choose the options of arguments come to a draft with these options. -/
theorem Chooses.exists_foldlM_take {parts : List Part} {arguments : Arguments}
    (h : Chooses parts arguments) (houtput : arguments.output ≠ some "") :
    ∃ last : Draft, parts.foldlM Draft.take Draft.empty = .ok last ∧
      last.inputs = parts.filterMap (·.input?) ∧ last.output = arguments.output ∧
      last.queryType = arguments.queryType ∧
      (⟨last.unsupported.getD .deny, last.prelude⟩ : GenerateOptions) = arguments.options := by
  obtain ⟨spoken, hspoken, haction⟩ : ∃ spoken : Option UnsupportedAction,
      parts.filterMap (·.value? .unsupportedKinds) = (spoken.map (·.word)).toList ∧
        spoken.getD .deny = arguments.options.unsupported := by
    rcases h.unsupported with hword | ⟨hnone, hdeny⟩
    · exact ⟨some _, hword, rfl⟩
    · exact ⟨none, hnone, hdeny.symm⟩
  have hcompletes :
      Draft.empty.Completes parts (parts.filterMap (·.input?)) (writtenValues arguments spoken)
      arguments.options.prelude := by
    refine ⟨rfl, fun option => ?_, ?_⟩
    · cases option with
      | output => exact h.output
      | queryType => exact h.queryType
      | unsupportedKinds => exact hspoken
    · rw [h.prelude]
      cases arguments.options.prelude <;> rfl
  have haccepts : ∀ option value, writtenValues arguments spoken option = some value →
      Draft.Accepts option value := by
    intro option value hvalue
    cases option with
    | output =>
      rintro rfl
      exact houtput hvalue
    | queryType => trivial
    | unsupportedKinds =>
      obtain ⟨action, -, hword⟩ := Option.map_eq_some_iff.mp hvalue
      exact ⟨action, hword⟩
  obtain ⟨last, hlast, hinputs, hvalues, hprelude⟩ := hcompletes.exists_foldlM_take haccepts
  have hvalue : ∀ option, last.value? option = writtenValues arguments spoken option := by
    intro option
    simpa using congrArg List.head? (hvalues option)
  refine ⟨last, hlast, by simpa using hinputs, hvalue .output, hvalue .queryType, ?_⟩
  have hunsupported : last.unsupported = spoken :=
    Option.map_injective word_injective (hvalue .unsupportedKinds)
  have hflag : last.prelude = arguments.options.prelude := by
    cases hlast : last.prelude <;> cases hgoal : arguments.options.prelude <;>
      simp [hlast, hgoal] at hprelude ⊢
  rw [hunsupported, hflag, haction]

/-- However arguments are written, with an input and no empty output, they are read back. -/
theorem parse_of_writes {arguments : Arguments} {commandLine : List String}
    (h : Writes arguments commandLine) (hinputs : arguments.inputs ≠ [])
    (houtput : arguments.output ≠ some "") :
    parse commandLine = .ok arguments := by
  have hempty : Draft.empty.settle = .ok Draft.empty := rfl
  obtain ⟨inputs, output, queryType, options⟩ := arguments
  cases h with
  | @separated parts words rest hwords hoptions hall =>
    obtain ⟨taken, htaken, hfront, rfl, rfl, rfl⟩ := hoptions.exists_foldlM_take houtput
    obtain ⟨middle, hmiddle, hsettle⟩ :=
      Draft.exists_addAll_of_forall_spells hwords hempty htaken ("--" :: rest)
    obtain ⟨last, hlast, hend⟩ := Draft.exists_foldlM_addInput hsettle rest
    have hseparator : Argument.ofString "--" = .separator := by decide +kernel
    rw [← hfront] at hall
    cases hall
    rw [parse, hmiddle, Draft.addAll_separator hseparator, hlast]
    exact Draft.finish_of_settle hend hinputs
  | @plain parts words hwords hoptions hall =>
    obtain ⟨taken, htaken, hfront, rfl, rfl, rfl⟩ := hoptions.exists_foldlM_take houtput
    obtain ⟨last, hlast, hend⟩ := Draft.exists_addAll_of_forall_spells hwords hempty htaken []
    rw [← hfront] at hall
    cases hall
    rw [List.append_nil] at hlast
    rw [parse, hlast]
    exact Draft.finish_of_settle hend hinputs

/-- Inputs stand on both sides of the separator, one of them empty and one a dash, and the query
type is empty. The output looks like an option, and it holds an equals sign. -/
theorem parse_of_writes_mixed :
    let commandLine :=
      ["-", "--query-type", "", "-o-x=y", "", "--unsupported-kinds=deny", "--prelude", "--", "--",
        "-h"]
    let arguments : Arguments := ⟨["-", "", "--", "-h"], some "-x=y", some "", ⟨.deny, true⟩⟩
    Writes arguments commandLine ∧ parse commandLine = .ok arguments := by
  intro commandLine arguments
  let parts : List Part := [.input "-", .option .queryType "", .option .output "-x=y", .input "",
    .option .unsupportedKinds "deny", .prelude]
  let words : List (List String) :=
    [["-"], ["--" ++ ValueOption.queryType.longName, ""], ["-o" ++ "-x=y"], [""],
    ["--" ++ ValueOption.unsupportedKinds.longName ++ "=" ++ "deny"], ["--prelude"]]
  have hwords : List.Forall₂ Spells parts words :=
    .cons (.input (.inl rfl)) <| .cons (.longApart .queryType (by decide)) <|
      .cons (.shortAttached (by decide) (by decide)) <| .cons (.input (.inr (by decide))) <|
      .cons (.long .unsupportedKinds "deny") <| .cons .prelude .nil
  have hoptions : Chooses parts arguments := ⟨rfl, rfl, .inl rfl, rfl⟩
  have hwrites : Writes arguments commandLine := .separated hwords hoptions rfl
  exact ⟨hwrites, parse_of_writes hwrites (by decide) (by decide)⟩

end CommandLine

end SdlCodegen
