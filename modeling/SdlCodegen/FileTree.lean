import SdlCodegen.Text.Cut

/-!
# File trees

A file tree is a list of files and directories by their places, which are lists of names from the
root. Paths are resolved one name at a time: a path that begins with a slash starts from the root
and any other from the working directory, every step needs a directory, `.` and an empty name stay
where they are, and `..` goes one name back, at most to the root.

A place can be barred, so that a file there cannot be opened for reading and a directory there
cannot be listed. Every directory can be passed through, and there are no links.
-/

namespace SdlCodegen

/-- Why a path cannot be used. -/
inductive PathError where
  | notFound
  | notADirectory
  | isADirectory
  | other (code : Nat) (reason : String)
  deriving DecidableEq, Repr

/-- The error in words, with its number. -/
def PathError.message : PathError → String
  | notFound => "No such file or directory (os error 2)"
  | notADirectory => "Not a directory (os error 20)"
  | isADirectory => "Is a directory (os error 21)"
  | other code reason => reason ++ " (os error " ++ Nat.repr code ++ ")"

/-- What a path may lead to. -/
inductive Entry where
  | file (content : ByteArray)
  | directory

/-- Files and directories by their places, of which the root is not listed, the place of the working
directory, and the barred places with what becomes of an attempt to open them for reading. -/
structure FileTree where
  entries : List (List String × Entry)
  workingDirectory : List String
  barred : List (List String × PathError)

/-- What a program sees of files: whether a path is that of a directory or of a regular file, the
names in a directory in any order, and the content of a file. -/
structure FileView where
  isDirectory : String → Bool
  isFile : String → Bool
  list : String → Except PathError (List String)
  read : String → Except PathError ByteArray

namespace FileTree

/-- The tree without files. -/
def empty : FileTree := ⟨[], [], []⟩

/-- What stands at a place. -/
def entry? (tree : FileTree) : List String → Option Entry
  | [] => some .directory
  | names => tree.entries.lookup names

/-- Put an entry at a place, in the place of the one that is there. -/
def put (tree : FileTree) (names : List String) (entry : Entry) : FileTree :=
  { tree with entries := (names, entry) :: tree.entries.filter (·.1 != names) }

/-- The place that names lead to from another place. The last of them need not exist. -/
def walk (tree : FileTree) (place : List String) : List String → Except PathError (List String)
  | [] => .ok place
  | name :: names =>
    match tree.entry? place with
    | some .directory =>
      if name = "" ∨ name = "." then tree.walk place names
      else if name = ".." then tree.walk place.dropLast names
      else tree.walk (place ++ [name]) names
    | some (.file _) => .error .notADirectory
    | none => .error .notFound

/-- The names in a path. -/
def pathNames (path : String) : List String :=
  (Text.pieces '/' path.toList).map String.ofList

/-- The place that a path starts from. -/
def start (tree : FileTree) (path : String) : List String :=
  if path.toList.head? = some '/' then [] else tree.workingDirectory

/-- The place that a path leads to and what stands there. The empty path leads nowhere. -/
def locate (tree : FileTree) (path : String) : Except PathError (List String × Entry) := do
  if path = "" then .error .notFound
  else
    let place ← tree.walk (tree.start path) (pathNames path)
    match tree.entry? place with
    | some entry => .ok (place, entry)
    | none => .error .notFound

/-- The names directly inside a place. -/
def namesIn (tree : FileTree) (place : List String) : List String :=
  tree.entries.filterMap fun (names, _) =>
    if names.dropLast = place then names.getLast? else none

/-- What is found at a place, unless the place is barred. -/
def opened {α : Type} (tree : FileTree) (place : List String) (found : α) : Except PathError α :=
  match tree.barred.lookup place with
  | some error => .error error
  | none => .ok found

/-- The files of a tree as a program sees them. -/
def view (tree : FileTree) : FileView where
  isDirectory path := tree.locate path matches .ok (_, .directory)
  isFile path := tree.locate path matches .ok (_, .file _)
  list path :=
    match tree.locate path with
    | .ok (place, .directory) => tree.opened place (tree.namesIn place)
    | .ok (_, .file _) => .error .notADirectory
    | .error error => .error error
  read path :=
    match tree.locate path with
    | .ok (place, .file content) => tree.opened place content
    | .ok (_, .directory) => .error .isADirectory
    | .error error => .error error

/-- Write a file, new or not. A path that ends in a slash, `.` or `..` means a directory. -/
def write (tree : FileTree) (path : String) (content : ByteArray) : Except PathError FileTree := do
  if path = "" then .error .notFound
  else
    let names := pathNames path
    let named := (names.reverse.dropWhile (· == "")).reverse
    let parent ← tree.walk (tree.start path) named.dropLast
    match tree.entry? parent with
    | some .directory =>
      let last := named.getLastD "."
      if named.length < names.length ∨ last = "." ∨ last = ".." then .error .isADirectory
      else
        match tree.entry? (parent ++ [last]) with
        | some .directory => .error .isADirectory
        | _ => .ok (tree.put (parent ++ [last]) (.file content))
    | some (.file _) => .error .notADirectory
    | none => .error .notFound

/-- The place of a path with neither `.` nor `..` in it, whether it exists or not. -/
def plainPlace (tree : FileTree) (path : String) : List String :=
  tree.start path ++ (pathNames path).filter (· != "")

/-- Add the directories around a place that are missing, outermost first. -/
def addAround (tree : FileTree) (place : List String) : FileTree :=
  (List.range place.length).foldl
    (fun tree count =>
      if (tree.entry? (place.take count)).isSome then tree
      else tree.put (place.take count) .directory)
    tree

/-- Add a directory and those around it. -/
def addDirectory (tree : FileTree) (path : String) : FileTree :=
  let place := tree.plainPlace path
  let around := tree.addAround place
  if (around.entry? place).isSome then around else around.put place .directory

/-- Add a file and the directories around it. -/
def addFile (tree : FileTree) (path : String) (content : ByteArray) : FileTree :=
  let place := tree.plainPlace path
  (tree.addAround place).put place (.file content)

end FileTree

end SdlCodegen
