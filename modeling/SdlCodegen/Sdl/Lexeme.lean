import SdlCodegen.Sdl.Reader
import SdlCodegen.TypeRef

/-!
# Names, type references and the blanks between them

Blanks are spaces, commas, tabs, byte order marks, line ends and comments from `#` to the end of the
line. They may stand between the parts of a rule but not inside a name or a type reference. A word
of the grammar needs no blank behind it: `typeFoo` begins an object type named `Foo`.
-/

namespace SdlCodegen.Sdl

/-- Whether a character ends a line. -/
def isLineEnd (c : Char) : Bool :=
  c == '\n' || c == '\r'

/-- Whether a character is blank outside comments. -/
def isSpace (c : Char) : Bool :=
  c == ' ' || c == ',' || c == '\t' || c == '\ufeff' || isLineEnd c

/-- Whether a character may begin a name. -/
def isNameStart (c : Char) : Bool :=
  c.isAlpha || c == '_'

/-- Whether a character may continue a name. -/
def isNameContinue (c : Char) : Bool :=
  c.isAlpha || c.isDigit || c == '_'

/-- Drop spaces and comments; the flag tells whether the text begins inside a comment. -/
def skipBlanks : Bool → List Char → List Char
  | _, [] => []
  | true, c :: rest => skipBlanks (!isLineEnd c) rest
  | false, c :: rest =>
    if isSpace c then skipBlanks false rest
    else if c = '#' then skipBlanks true rest
    else c :: rest

/-- Drop given characters from the front of a text. -/
def skipWord : List Char → List Char → Option (List Char)
  | [], cs => some cs
  | _ :: _, [] => none
  | w :: ws, c :: cs => if w = c then skipWord ws cs else none

/-- Take the longest name from the front of a text. -/
def scanName : List Char → Option (String × List Char)
  | [] => none
  | c :: rest =>
    if isNameStart c then
      some (String.ofList (c :: rest.takeWhile isNameContinue), rest.dropWhile isNameContinue)
    else none

/-- Take the mark of a non-null reference if it is there. -/
def scanNonNull (type : TypeRef) : List Char → TypeRef × List Char
  | '!' :: rest => (.nonNull type, rest)
  | rest => (type, rest)

/-- Take a type reference from the front of a text; no blanks are allowed in it. -/
def scanType : List Char → Option (TypeRef × List Char)
  | '[' :: inner =>
    match scanType inner with
    | some (element, ']' :: rest) => some (scanNonNull (.list element) rest)
    | _ => none
  | cs =>
    match scanName cs with
    | some (name, rest) => some (scanNonNull (.named name) rest)
    | none => none

namespace Reader

/-- Skip blanks. -/
def blanks : Reader Unit :=
  ofScan fun cs => some ((), skipBlanks false cs)

/-- Read given characters. -/
def word (text : String) : Reader Unit :=
  ofScan fun cs => (skipWord text.toList cs).map ((), ·)

/-- Read one of several words, the first that matches. -/
def oneWord : List String → Reader Unit
  | [] => fail
  | text :: others => word text <|> oneWord others

/-- Read a name. -/
def name : Reader String :=
  rule (ofScan scanName)

/-- Read a type reference. -/
def typeRef : Reader TypeRef :=
  rule (ofScan scanType)

/-- Read a thing and the blanks behind it as often as it is there. -/
def list {α : Type} (item : Reader α) : Reader (List α) :=
  many do
    let value ← item
    blanks
    return value

/-- Read a thing once or more, with blanks between. -/
def list1 {α : Type} (item : Reader α) : Reader (List α) := do
  let first ← item
  blanks
  return first :: (← list item)

end Reader

end SdlCodegen.Sdl
