import SdlCodegen.Proofs.CommandLine
import SdlCodegen.Proofs.FileTree.WellFormed
import SdlCodegen.Run

/-!
# What a run leaves behind

A run that fails prints nothing and leaves every file as it was, at whichever stage it fails. A run
that succeeds either prints the generated code or writes it to the one place that was asked for. All
this is so whatever requests for URLs come to. Which events are shown decides on the log only.
-/

namespace SdlCodegen

variable {commandLine : List String} {web : Web} {tree : FileTree} {arguments : Arguments}

/-- The generated code does not depend on where it goes. -/
theorem Arguments.generate_withoutOutput (arguments : Arguments) (web : Web) (files : FileView) :
    { arguments with output := none }.generate web files = arguments.generate web files := rfl

/-- A run for which no code can be generated reports why. -/
theorem run_of_error {error : RunError} (hparse : CommandLine.parse commandLine = .ok arguments)
    (hresult : (arguments.generate web tree.view).result = .error error) (shows : Event → Bool) :
    run commandLine web tree shows =
      ⟨⟨1, "", some error.report,
        shownLines shows (arguments.generate web tree.view).events⟩, tree⟩ := by
  simp only [run, Plan.ofCommandLine, hparse, hresult, Plan.file?, Plan.ending]

/-- Without an output the generated code is printed. -/
theorem run_of_output_eq_none {code : String}
    (hparse : CommandLine.parse commandLine = .ok arguments)
    (hresult : (arguments.generate web tree.view).result = .ok code)
    (houtput : arguments.output = none)
    (shows : Event → Bool) :
    run commandLine web tree shows =
      ⟨⟨0, code, none,
        shownLines shows (arguments.generate web tree.view).events⟩, tree⟩ := by
  simp only [run, Plan.ofCommandLine, hparse, hresult, houtput, Plan.file?, Plan.ending]

/-- With an output the generated code is written to it. -/
theorem run_of_write_eq_ok {code path : String} {written : FileTree}
    (hparse : CommandLine.parse commandLine = .ok arguments)
    (hresult : (arguments.generate web tree.view).result = .ok code)
    (houtput : arguments.output = some path) (hwrite : tree.write path code.toUTF8 = .ok written)
    (shows : Event → Bool) :
    run commandLine web tree shows =
      ⟨⟨0, "", none, shownLines shows
        ((arguments.generate web tree.view).events ++ [.wroteOutput path])⟩, written⟩ := by
  simp only [run, Plan.ofCommandLine, hparse, hresult, houtput, Plan.file?, hwrite, Plan.ending]

/-- A run that cannot write the generated code reports why. -/
theorem run_of_write_eq_error {code path : String} {error : PathError}
    (hparse : CommandLine.parse commandLine = .ok arguments)
    (hresult : (arguments.generate web tree.view).result = .ok code)
    (houtput : arguments.output = some path) (hwrite : tree.write path code.toUTF8 = .error error)
    (shows : Event → Bool) :
    run commandLine web tree shows =
      ⟨⟨1, "", some (RunError.write path error).report,
        shownLines shows (arguments.generate web tree.view).events⟩, tree⟩ := by
  simp only [run, Plan.ofCommandLine, hparse, hresult, houtput, Plan.file?, hwrite, Plan.ending]

/-- A run that asks for code succeeds exactly if the code can be generated and, with an output,
written. -/
theorem run_code_eq_zero_iff (hparse : CommandLine.parse commandLine = .ok arguments)
    (shows : Event → Bool) :
    (run commandLine web tree shows).ending.code = 0 ↔
      ∃ code, (arguments.generate web tree.view).result = .ok code ∧
        ∀ path, arguments.output = some path →
          ∃ written, tree.write path code.toUTF8 = .ok written := by
  have hone : ¬ (1 = 0) := by decide
  constructor
  · intro hcode
    cases hresult : (arguments.generate web tree.view).result with
    | error error =>
      rw [run_of_error hparse hresult] at hcode
      exact absurd hcode hone
    | ok code =>
      refine ⟨code, rfl, fun path houtput => ?_⟩
      cases hwrite : tree.write path code.toUTF8 with
      | ok written => exact ⟨written, rfl⟩
      | error error =>
        rw [run_of_write_eq_error hparse hresult houtput hwrite] at hcode
        exact absurd hcode hone
  · rintro ⟨code, hresult, hwritten⟩
    cases houtput : arguments.output with
    | none => rw [run_of_output_eq_none hparse hresult houtput]
    | some path =>
      obtain ⟨written, hwrite⟩ := hwritten path houtput
      rw [run_of_write_eq_ok hparse hresult houtput hwrite]

/-- A run that does not succeed prints nothing and leaves the tree as it was. -/
theorem run_of_code_ne_zero (hparse : CommandLine.parse commandLine = .ok arguments)
    {shows : Event → Bool} (hcode : (run commandLine web tree shows).ending.code ≠ 0) :
    (run commandLine web tree shows).ending.output = "" ∧
      (run commandLine web tree shows).tree = tree := by
  cases hresult : (arguments.generate web tree.view).result with
  | error error =>
    rw [run_of_error hparse hresult]
    exact ⟨rfl, rfl⟩
  | ok code =>
    cases houtput : arguments.output with
    | none =>
      rw [run_of_output_eq_none hparse hresult houtput] at hcode
      exact absurd rfl hcode
    | some path =>
      cases hwrite : tree.write path code.toUTF8 with
      | error error =>
        rw [run_of_write_eq_error hparse hresult houtput hwrite]
        exact ⟨rfl, rfl⟩
      | ok written =>
        rw [run_of_write_eq_ok hparse hresult houtput hwrite] at hcode
        exact absurd rfl hcode

/-- A run leaves a well formed tree. -/
theorem wellFormed_run (h : tree.WellFormed) (shows : Event → Bool) :
    (run commandLine web tree shows).tree.WellFormed := by
  unfold run
  dsimp only
  split
  · exact h
  · split
    · next hwrite => exact h.write hwrite
    · exact h

namespace RunResult

/-- Two runs end with the same code, output and report and leave the same files, whatever they
log. -/
structure SameButLog (first second : RunResult) : Prop where
  code : first.ending.code = second.ending.code
  output : first.ending.output = second.ending.output
  report : first.ending.report = second.ending.report
  tree : first.tree = second.tree

end RunResult

/-- Which events are shown decides on the log of a plan only. -/
theorem Plan.sameButLog_ending (plan : Plan) (first second : Event → Bool)
    (refusal : Option PathError) (tree : FileTree) :
    RunResult.SameButLog ⟨plan.ending first refusal, tree⟩ ⟨plan.ending second refusal, tree⟩ := by
  cases plan with
  | saved path code events => cases refusal <;> exact ⟨rfl, rfl, rfl, rfl⟩
  | _ => exact ⟨rfl, rfl, rfl, rfl⟩

/-- Runs of one command line on one web and one tree differ in their logs only. -/
theorem sameButLog_run (commandLine : List String) (web : Web) (tree : FileTree)
    (first second : Event → Bool) :
    (run commandLine web tree first).SameButLog (run commandLine web tree second) := by
  unfold run
  dsimp only
  split
  · exact Plan.sameButLog_ending ..
  · split <;> exact Plan.sameButLog_ending ..

/-- A run succeeds exactly if its code can be generated and, with an output, written. It writes
nothing unless it succeeds. Then it prints the code, or writes what it would have printed without an
output to the place of its output and changes no other. Which events are shown changes none of
this. -/
theorem run_writes_only_generated (commandLine : List String) (web : Web) (tree : FileTree)
    (shows : Event → Bool) :
    (∀ arguments, CommandLine.parse commandLine = .ok arguments →
      let done := run commandLine web tree shows
      let printing := CommandLine.withoutOutput commandLine
      let printed := run printing web tree shows
      (done.ending.code = 0 ↔ ∃ code, (arguments.generate web tree.view).result = .ok code ∧
        ∀ path, arguments.output = some path →
          ∃ written, tree.write path code.toUTF8 = .ok written) ∧
      (done.ending.code ≠ 0 → done.ending.output = "" ∧ done.tree = tree) ∧
      (done.ending.code = 0 → arguments.output = none →
        (arguments.generate web tree.view).result = .ok done.ending.output ∧ done.tree = tree) ∧
      ∀ path, done.ending.code = 0 → arguments.output = some path →
        done.ending.output = "" ∧
        CommandLine.parse printing = .ok { arguments with output := none } ∧
        printed.ending.code = 0 ∧
        ∃ place, done.tree.locate path = .ok (place, .file printed.ending.output.toUTF8) ∧
          tree.AgreeExcept place done.tree) ∧
    ∀ otherShows,
      (run commandLine web tree shows).SameButLog (run commandLine web tree otherShows) := by
  refine ⟨fun arguments hparse => ?_, sameButLog_run commandLine web tree shows⟩
  refine ⟨run_code_eq_zero_iff hparse shows, run_of_code_ne_zero hparse, ?_, ?_⟩
  · intro hcode hnone
    obtain ⟨code, hresult, -⟩ := (run_code_eq_zero_iff hparse shows).mp hcode
    rw [run_of_output_eq_none hparse hresult hnone]
    exact ⟨hresult, rfl⟩
  · intro path hcode houtput
    obtain ⟨code, hresult, hwritten⟩ := (run_code_eq_zero_iff hparse shows).mp hcode
    obtain ⟨written, hwrite⟩ := hwritten path houtput
    obtain ⟨place, -, hplace, hagree⟩ := FileTree.write_eq_ok hwrite
    have hprinting := CommandLine.parse_withoutOutput hparse
    have hprinted :
        ({ arguments with output := none }.generate web tree.view).result = .ok code := by
      rw [Arguments.generate_withoutOutput, hresult]
    rw [run_of_write_eq_ok hparse hresult houtput hwrite,
      run_of_output_eq_none hprinting hprinted rfl]
    exact ⟨rfl, hprinting, rfl, place, hplace, hagree⟩

/-- A run with a URL and a schema file writes to a place at the root what the run without an output
prints. -/
theorem run_writes_only_generated_scalar :
    let web : Web := ⟨fun _ => .ok ⟨none, .ok "scalar A"⟩⟩
    let tree : FileTree :=
      ⟨[(["w"], .directory), (["w", "b.graphql"], .file "scalar B".toUTF8)], ["w"], []⟩
    let done := run ["https://h/a", "b.graphql", "-o", "/out.rs"] web tree fun _ => true
    CommandLine.parse ["https://h/a", "b.graphql", "-o", "/out.rs"] =
        .ok ⟨["https://h/a", "b.graphql"], some "/out.rs", none, ⟨.deny, false⟩⟩ ∧
      done.ending.code = 0 ∧
      ∃ place, done.tree.locate "/out.rs" =
          .ok (place, .file (run ["https://h/a", "b.graphql"] web tree
            fun _ => true).ending.output.toUTF8) ∧
        tree.AgreeExcept place done.tree := by
  have hparse : CommandLine.parse ["https://h/a", "b.graphql", "-o", "/out.rs"] =
      .ok ⟨["https://h/a", "b.graphql"], some "/out.rs", none, ⟨.deny, false⟩⟩ := by
    decide +kernel
  have hprinting : CommandLine.withoutOutput ["https://h/a", "b.graphql", "-o", "/out.rs"] =
      ["https://h/a", "b.graphql"] := by decide +kernel
  have hcode : (run ["https://h/a", "b.graphql", "-o", "/out.rs"]
      ⟨fun _ => .ok ⟨none, .ok "scalar A"⟩⟩
      ⟨[(["w"], .directory), (["w", "b.graphql"], .file "scalar B".toUTF8)], ["w"], []⟩
      fun _ => true).ending.code = 0 := by decide +kernel
  obtain ⟨-, -, -, hsaves⟩ := (run_writes_only_generated _ _ _ _).1 _ hparse
  obtain ⟨-, -, -, hwritten⟩ := hsaves _ hcode rfl
  rw [hprinting] at hwritten
  exact ⟨hparse, hcode, hwritten⟩

end SdlCodegen
