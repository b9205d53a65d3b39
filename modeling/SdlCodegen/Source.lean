import SdlCodegen.FileTree
import SdlCodegen.Log
import SdlCodegen.Schema.Merge

/-!
# Schema sources

An input is a file, a directory or a URL. A directory stands for the schema files directly inside
it, in the order of their names; nothing is read from the directories in it. A URL stands for the
text that a request for it gives. What the files are and what requests give is handed in.

Every source keeps where it came from, so that a fault can be told by its origin.
-/

namespace SdlCodegen

/-- A schema text and where it came from. -/
structure Source where
  origin : String
  text : String
  deriving DecidableEq, Repr

/-- Why a file cannot be read as text. -/
inductive ReadError where
  | path (error : PathError)
  | invalidEncoding
  deriving DecidableEq, Repr

/-- The error in words. -/
def ReadError.message : ReadError → String
  | path error => error.message
  | invalidEncoding => "stream did not contain valid UTF-8"

/-- Why a request gives no text, and the causes of that from near to far. -/
structure FetchFailure where
  message : String
  causes : List String
  deriving DecidableEq, Repr

/-- The answer to a request: the failure that its status stands for, if it is one, and its text,
which may break off. -/
structure Response where
  refusal : Option FetchFailure
  text : Except FetchFailure String

/-- What requests for URLs come to. -/
structure Web where
  get : String → Except FetchFailure Response

/-- The text at a URL. A status that stands for a failure is one, whatever text comes with it. -/
def Web.fetch (web : Web) (url : String) : Except FetchFailure String := do
  let response ← web.get url
  match response.refusal with
  | some failure => .error failure
  | none => response.text

/-- Why an input gives no source. -/
inductive SourceError where
  | unreadable (path : String) (cause : ReadError)
  | unreachable (url : String) (failure : FetchFailure)
  | emptyDirectory (path : String)
  deriving DecidableEq, Repr

namespace SourceError

/-- What is wrong with the input. -/
def message : SourceError → String
  | unreadable path cause => "failed to read " ++ path ++ ": " ++ cause.message
  | unreachable url failure => "failed to fetch " ++ url ++ ": " ++ failure.message
  | emptyDirectory path => "no .graphqls or .graphql files in " ++ path

/-- The causes below the message, from near to far. -/
def causes : SourceError → List String
  | unreadable _ cause => [cause.message]
  | unreachable _ failure => failure.message :: failure.causes
  | emptyDirectory _ => []

end SourceError

namespace Source

/-- Whether an input is a URL. -/
def isUrl (input : String) : Bool :=
  "http://".toList.isPrefixOf input.toList || "https://".toList.isPrefixOf input.toList

/-- The endings of the names of schema files. -/
def endings : List (List Char) :=
  [".graphqls".toList, ".graphql".toList]

/-- Whether a file name is a stem and an ending of a schema file. -/
def isSchemaName (name : String) : Bool :=
  endings.any fun ending => ending.isSuffixOf name.toList && ending.length < name.toList.length

/-- The path of a file in a directory. -/
def join (directory name : String) : String :=
  if directory.toList.getLast? = some '/' then directory ++ name else directory ++ "/" ++ name

/-- The names of the schema files among the names in a directory, in order. -/
def schemaNames (files : FileView) (directory : String) (names : List String) : List String :=
  (names.filter fun name => files.isFile (join directory name) && isSchemaName name).mergeSort
    fun first second => decide (first ≤ second)

/-- Read a file. -/
def ofFile (files : FileView) (path : String) : Logged SourceError Source := do
  .emit (.readingFile path)
  match files.read path with
  | .error error => .fail (.unreadable path (.path error))
  | .ok content =>
    match String.fromUTF8? content with
    | some text => return ⟨path, text⟩
    | none => .fail (.unreadable path .invalidEncoding)

/-- Read the schema files directly inside a directory, in the order of their names. -/
def ofDirectory (files : FileView) (directory : String) : Logged SourceError (List Source) :=
  match files.list directory with
  | .error error => .fail (.unreadable directory (.path error))
  | .ok names =>
    match schemaNames files directory names with
    | [] => .fail (.emptyDirectory directory)
    | sorted => sorted.mapM fun name => ofFile files (join directory name)

/-- Fetch the text at a URL. -/
def ofUrl (web : Web) (url : String) : Logged SourceError Source := do
  .emit (.fetching url)
  match web.fetch url with
  | .error failure => .fail (.unreachable url failure)
  | .ok text => return ⟨url, text⟩

/-- The sources that an input stands for. -/
def ofInput (web : Web) (files : FileView) (input : String) : Logged SourceError (List Source) :=
  if isUrl input then do return [← ofUrl web input]
  else if files.isDirectory input then ofDirectory files input
  else do return [← ofFile files input]

/-- The sources that all inputs stand for, in order. -/
def load (web : Web) (files : FileView) (inputs : List String) :
    Logged SourceError (List Source) := do
  let sources := (← inputs.mapM (ofInput web files)).flatten
  .emit (.loadedSources sources.length)
  return sources

end Source

/-- Why sources make no type graph. -/
structure ReadFailure where
  origins : List String
  cause : SchemaError
  deriving DecidableEq, Repr

/-- The source of a fault. A fault of one text names its origin; the others name all origins. -/
def ReadFailure.message (failure : ReadFailure) : String :=
  match failure.cause with
  | .document index _ => "failed to parse " ++ failure.origins.getD index ""
  | _ => "failed to read schema from " ++ String.intercalate ", " failure.origins

/-- The type graph of a list of sources. -/
def TypeGraph.ofSources (sources : List Source) : Logged ReadFailure TypeGraph :=
  (TypeGraph.ofTexts (sources.map (·.text))).mapError fun cause =>
    ⟨sources.map (·.origin), cause⟩

end SdlCodegen
