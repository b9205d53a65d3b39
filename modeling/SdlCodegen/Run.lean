import SdlCodegen.CommandLine
import SdlCodegen.Source

/-!
# A whole run

A run takes the command line, what requests for URLs come to, a file tree, and which events the log
shows. It gives an exit code, the standard output, the file tree behind it, a report if it failed,
and the log. The code is generated before anything is written, so a run that fails writes nothing.
-/

namespace SdlCodegen

/-- A failure as it is told to the user: what could not be done, and the causes from near to far. -/
structure Report where
  summary : String
  causes : List String
  deriving DecidableEq, Repr

namespace Report

/-- A text with `margin` in front of every line but the first. -/
def indentLines (margin : List Char) (text : String) : String :=
  String.ofList (text.toList.flatMap fun c => if c = '\n' then '\n' :: margin else [c])

/-- The causes with their numbers. -/
def numbered : Nat → List String → List String
  | _, [] => []
  | index, cause :: causes =>
    let number := Nat.repr index
    let blanks := String.ofList (List.replicate (5 - number.length) ' ')
    (blanks ++ number ++ ": " ++ indentLines (List.replicate 7 ' ') cause) ::
      numbered (index + 1) causes

/-- The text of a report. A single cause has no number. -/
def text (report : Report) : String :=
  let first := "Error: " ++ report.summary
  match report.causes with
  | [] => first
  | [cause] => first ++ "\n\nCaused by:\n    " ++ indentLines (List.replicate 4 ' ') cause
  | causes => first ++ "\n\nCaused by:\n" ++ String.intercalate "\n" (numbered 0 causes)

end Report

/-- Why a run fails. -/
inductive RunError where
  | load (error : SourceError)
  | read (failure : ReadFailure)
  | queryType (error : SchemaError)
  | generate (error : GenerateError)
  | write (path : String) (error : PathError)
  deriving DecidableEq, Repr

/-- The report on a failure. -/
def RunError.report : RunError → Report
  | load error => ⟨"failed to load schema", error.message :: error.causes⟩
  | read failure => ⟨failure.message, [failure.cause.message]⟩
  | queryType error => ⟨"invalid --query-type", [error.message]⟩
  | generate error =>
    let shape := match error with
      | .unsupportedShape _ _ shape => [shape.message]
      | _ => []
    ⟨"failed to generate code", error.message :: shape⟩
  | write path error => ⟨"failed to write " ++ path, [error.message]⟩

/-- The generated code that arguments ask for. -/
def Arguments.generate (arguments : Arguments) (web : Web) (files : FileView) :
    Logged RunError String := do
  let sources ← (Source.load web files arguments.inputs).mapError .load
  let graph ← (TypeGraph.ofSources sources).mapError .read
  let rooted ← match arguments.queryType with
    | some name => .ofExcept ((graph.setQueryType name).mapError .queryType)
    | none => pure graph
  (rooted.generate arguments.options).mapError .generate

/-- The text for a request for help. -/
def helpText : String :=
  "Generates async-graphql Rust declarations from GraphQL schema files\n\n" ++
  "Usage: graphql-generator [OPTIONS] <INPUTS>...\n\n" ++
  "Arguments:\n" ++
  "  <INPUTS>...  Schema files, directories of .graphqls files, or URLs\n\n" ++
  "Options:\n" ++
  "  -o, --output <OUTPUT>\n" ++
  "          Write the generated code to this file instead of stdout\n" ++
  "      --query-type <QUERY_TYPE>\n" ++
  "          Name of the query root type [default: from the schema, else Query]\n" ++
  "      --unsupported-kinds <UNSUPPORTED_KINDS>\n" ++
  "          [default: deny] [possible values: deny, warn]\n" ++
  "      --prelude\n" ++
  "          Emit the async_graphql imports the generated code needs\n" ++
  "  -h, --help\n" ++
  "          Print help\n" ++
  "  -V, --version\n" ++
  "          Print version\n"

/-- The exit code and output for a command line that asks for no generation. -/
def Stop.response : Stop → Nat × String
  | .help => (0, helpText)
  | .version => (0, "graphql-generator 0.1.0\n")
  | _ => (2, "")

/-- What a run comes to before anything is written. -/
inductive Plan where
  | stopped (stop : Stop)
  | failed (error : RunError) (events : List Event)
  | printed (code : String) (events : List Event)
  | saved (path code : String) (events : List Event)
  deriving DecidableEq, Repr

/-- What a run shows when it is over. -/
structure Ending where
  code : Nat
  output : String
  report : Option Report
  log : List String
  deriving DecidableEq, Repr

/-- The lines for those of some events that are shown. -/
def shownLines (shows : Event → Bool) (events : List Event) : List String :=
  (events.filter shows).map Event.line

namespace Plan

/-- The plan for a command line, given the web and the files as they are. -/
def ofCommandLine (commandLine : List String) (web : Web) (files : FileView) : Plan :=
  match CommandLine.parse commandLine with
  | .error stop => stopped stop
  | .ok arguments =>
    let generated := arguments.generate web files
    match generated.result, arguments.output with
    | .error error, _ => failed error generated.events
    | .ok code, none => printed code generated.events
    | .ok code, some path => saved path code generated.events

/-- The file that is to be written. -/
def file? : Plan → Option (String × ByteArray)
  | saved path code _ => some (path, code.toUTF8)
  | _ => none

/-- The end of a run, given which events are shown and, if the file could not be written, why. -/
def ending (shows : Event → Bool) (refusal : Option PathError) : Plan → Ending
  | stopped stop => ⟨stop.response.1, stop.response.2, none, []⟩
  | failed error events => ⟨1, "", some error.report, shownLines shows events⟩
  | printed code events => ⟨0, code, none, shownLines shows events⟩
  | saved path _ events =>
    match refusal with
    | some error => ⟨1, "", some (RunError.write path error).report, shownLines shows events⟩
    | none => ⟨0, "", none, shownLines shows (events ++ [.wroteOutput path])⟩

end Plan

/-- What is left when a run is over. -/
structure RunResult where
  ending : Ending
  tree : FileTree

/-- A whole run. -/
def run (commandLine : List String) (web : Web) (tree : FileTree) (shows : Event → Bool) :
    RunResult :=
  let plan := Plan.ofCommandLine commandLine web tree.view
  match plan.file? with
  | none => ⟨plan.ending shows none, tree⟩
  | some (path, content) =>
    match tree.write path content with
    | .ok written => ⟨plan.ending shows none, written⟩
    | .error error => ⟨plan.ending shows (some error), tree⟩

end SdlCodegen
