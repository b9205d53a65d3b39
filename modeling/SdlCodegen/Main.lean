import SdlCodegen.LogFilter
import SdlCodegen.Run

/-!
# The program

Looks up the files and requests the URLs that the command line names, makes the plan of the run from
what it found, carries the plan out and shows its end. Log lines and reports go to the standard
error output.

How a request is made is handed in. Nothing that `main` could hand in speaks HTTP, so there each
request fails and says so.
-/

namespace SdlCodegen.Main

/-- What was found at the paths and URLs that a run may look at. -/
structure Snapshot where
  directories : List (String × Except PathError (List String))
  schemaFiles : List String
  contents : List (String × Except PathError ByteArray)
  responses : List (String × Except FetchFailure Response)

namespace Snapshot

/-- Nothing was looked at. -/
def empty : Snapshot := ⟨[], [], [], []⟩

/-- The files as they were found. -/
def view (snapshot : Snapshot) : FileView where
  isDirectory path := (snapshot.directories.lookup path).isSome
  isFile path := snapshot.schemaFiles.contains path
  list path := (snapshot.directories.lookup path).getD (.error .notADirectory)
  read path := (snapshot.contents.lookup path).getD (.error .notFound)

/-- The answers as they were given. -/
def web (snapshot : Snapshot) : Web where
  get url := (snapshot.responses.lookup url).getD (.error ⟨"no request was made", []⟩)

end Snapshot

/-- An error of the system as one of a path. -/
def pathError : IO.Error → PathError
  | .noFileOrDirectory .. => .notFound
  | .inappropriateType _ 21 _ => .isADirectory
  | .inappropriateType .. => .notADirectory
  | .permissionDenied _ code reason => .other code.toNat reason
  | error => .other 0 error.toString

/-- The value of an action on a path, or why there is none. -/
def attempt {α : Type} (action : IO α) : IO (Except PathError α) := do
  try return .ok (← action)
  catch error => return .error (pathError error)

/-- What kind of thing a path leads to; nothing if it leads nowhere. -/
def fileType? (path : String) : IO (Option IO.FS.FileType) := do
  if path.isEmpty then return none
  let found ← attempt do return (← (← IO.FS.realPath path).metadata).type
  return found.toOption

/-- The names in a directory. -/
def listDirectory (path : String) : IO (Except PathError (List String)) :=
  attempt do return (← (← IO.FS.realPath path).readDir).toList.map (·.fileName)

/-- The content of a file, next to its path. -/
def readFile (path : String) : IO (String × Except PathError ByteArray) :=
  return (path, ← attempt (IO.FS.readBinFile path))

/-- Look up the schema files directly inside a directory. An entry that leads nowhere is none. -/
def lookInside (snapshot : Snapshot) (directory : String) : IO Snapshot := do
  let listing ← listDirectory directory
  let names := (listing.toOption.getD []).filter Source.isSchemaName
  let paths ← (names.map (Source.join directory)).filterM fun path =>
    return (← fileType? path) matches some .file
  return { snapshot with
    directories := (directory, listing) :: snapshot.directories
    schemaFiles := paths ++ snapshot.schemaFiles
    contents := (← paths.mapM readFile) ++ snapshot.contents }

/-- Look up an input: request a URL, look inside a directory, and read what is neither. -/
def lookUp (get : String → IO (Except FetchFailure Response)) (snapshot : Snapshot)
    (input : String) : IO Snapshot := do
  if Source.isUrl input then
    return { snapshot with responses := (input, ← get input) :: snapshot.responses }
  else if (← fileType? input) matches some .dir then
    lookInside snapshot input
  else
    return { snapshot with contents := (← readFile input) :: snapshot.contents }

/-- Look up inputs in order, up to the first that gives no source. -/
def lookUpAll (get : String → IO (Except FetchFailure Response)) (snapshot : Snapshot) :
    List String → IO Snapshot
  | [] => return snapshot
  | input :: inputs => do
    let next ← lookUp get snapshot input
    match (Source.ofInput next.web next.view input).result with
    | .ok _ => lookUpAll get next inputs
    | .error _ => return next

/-- Write a file; gives why it cannot be written if so. -/
def writeFile (path : String) (content : ByteArray) : IO (Option PathError) := do
  match ← attempt (IO.FS.writeBinFile path content) with
  | .ok () => return none
  | .error error => return some error

/-- Show the end of a run and give its exit code. -/
def finish (ending : Ending) : IO UInt32 := do
  let errors ← IO.getStderr
  ending.log.forM errors.putStrLn
  if let some report := ending.report then errors.putStrLn report.text
  if ending.code = 2 then errors.putStrLn "error: the command line is not understood, see '--help'"
  IO.print ending.output
  return UInt32.ofNat ending.code

/-- The program, given how requests are made. -/
def program (get : String → IO (Except FetchFailure Response)) (commandLine : List String) :
    IO UInt32 := do
  let inputs := match CommandLine.parse commandLine with
    | .ok arguments => arguments.inputs
    | .error _ => []
  let snapshot ← lookUpAll get .empty inputs
  let plan := Plan.ofCommandLine commandLine snapshot.web snapshot.view
  let refusal ← match plan.file? with
    | some (path, content) => writeFile path content
    | none => pure none
  finish (plan.ending (LogFilter.ofSetting (← IO.getEnv "RUST_LOG")).shows refusal)

/-- A request that cannot be made. -/
def noRequest (_ : String) : IO (Except FetchFailure Response) :=
  return .error ⟨"error sending request", ["no way to speak HTTP from here"]⟩

end SdlCodegen.Main

/-- Run the program on its command line. -/
def main (commandLine : List String) : IO UInt32 :=
  SdlCodegen.Main.program SdlCodegen.Main.noRequest commandLine
