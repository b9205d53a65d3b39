import SdlCodegen.Sdl.Reader
import SdlCodegen.Sdl.Lexeme
import SdlCodegen.Text.Cut

/-!
# String literals

A plain string stands between quotes on one line and has escapes. A block string stands between
triple quotes. Nothing in it is an escape, though `\"""` does not end it. The indentation that all
its lines but the first have in common is removed, and so are blank lines at its start and end.
-/

namespace SdlCodegen.Sdl

/-- The value of a hexadecimal digit. -/
def hexDigit? (c : Char) : Option Nat :=
  if c.isDigit then some (c.toNat - '0'.toNat)
  else if 'a' ≤ c ∧ c ≤ 'f' then some (c.toNat - 'a'.toNat + 10)
  else if 'A' ≤ c ∧ c ≤ 'F' then some (c.toNat - 'A'.toNat + 10)
  else none

/-- The character with a code point of four hexadecimal digits; surrogates have none. -/
def codeChar? (a b c d : Char) : Option Char := do
  let code := (((← hexDigit? a) * 16 + (← hexDigit? b)) * 16 + (← hexDigit? c)) * 16 +
    (← hexDigit? d)
  if 0xD800 ≤ code ∧ code ≤ 0xDFFF then none else some (Char.ofNat code)

/-- The character that a letter after a backslash stands for. -/
def escapeChar? : Char → Option Char
  | '"' => some '"'
  | '\\' => some '\\'
  | '/' => some '/'
  | 'b' => some '\x08'
  | 'f' => some '\x0c'
  | 'n' => some '\n'
  | 'r' => some '\r'
  | 't' => some '\t'
  | _ => none

/-- Put a character in front of what was read. -/
def consRead (c : Char) : List Char × List Char → List Char × List Char
  | (value, rest) => (c :: value, rest)

/-- Read a plain string from behind its opening quote. -/
def scanPlain : List Char → Option (List Char × List Char)
  | '"' :: rest => some ([], rest)
  | '\\' :: 'u' :: a :: b :: c :: d :: rest =>
    match codeChar? a b c d with
    | some char => (scanPlain rest).map (consRead char)
    | none => none
  | '\\' :: letter :: rest =>
    match escapeChar? letter with
    | some char => (scanPlain rest).map (consRead char)
    | none => none
  | c :: rest => if c = '\\' ∨ isLineEnd c then none else (scanPlain rest).map (consRead c)
  | [] => none

/-- Read the raw text of a block string from behind its opening quotes. -/
def scanBlock : List Char → Option (List Char × List Char)
  | '"' :: '"' :: '"' :: rest => some ([], rest)
  | '\\' :: '"' :: '"' :: '"' :: rest =>
    (scanBlock rest).map fun (value, after) => ('\\' :: '"' :: '"' :: '"' :: value, after)
  | c :: rest => (scanBlock rest).map (consRead c)
  | [] => none

/-- Turn every line end into a single line feed. -/
def unifyLineEnds : List Char → List Char
  | [] => []
  | '\r' :: '\n' :: rest => '\n' :: unifyLineEnds rest
  | '\r' :: rest => '\n' :: unifyLineEnds rest
  | c :: rest => c :: unifyLineEnds rest

/-- Whether a character counts as indentation. -/
def isIndent (c : Char) : Bool :=
  c == ' ' || c == '\t'

/-- The indentation of a line, unless there is nothing else on it. -/
def indentOf? (line : List Char) : Option Nat :=
  if line.all isIndent then none else some (line.takeWhile isIndent).length

/-- The indentation that all lines with other characters have in common. -/
def commonIndent (lines : List (List Char)) : Nat :=
  (lines.filterMap indentOf?).min?.getD 0

/-- Remove the common indentation from a line that is long enough. -/
def dropIndent (indent : Nat) (line : List Char) : List Char :=
  if indent ≤ line.length then line.drop indent else line

/-- Remove the lines of indentation only from the start. -/
def dropBlankLines (lines : List (List Char)) : List (List Char) :=
  lines.dropWhile (·.all isIndent)

/-- The value of a block string with a given raw text. -/
def blockValue (raw : List Char) : List Char :=
  match Text.pieces '\n' (unifyLineEnds raw) with
  | [] => []
  | first :: others =>
    let lines := first :: others.map (dropIndent (commonIndent others))
    List.intercalate ['\n'] (dropBlankLines (dropBlankLines lines).reverse).reverse

/-- Read a string literal: a block string, or else a plain one. -/
def scanString (cs : List Char) : Option (String × List Char) :=
  let block := match cs with
    | '"' :: '"' :: '"' :: rest =>
      (scanBlock rest).map fun (raw, after) => (String.ofList (blockValue raw), after)
    | _ => none
  let plain := match cs with
    | '"' :: rest => (scanPlain rest).map fun (value, after) => (String.ofList value, after)
    | _ => none
  block <|> plain

/-- Read a string literal. -/
def Reader.string : Reader String :=
  rule (ofScan scanString)

end SdlCodegen.Sdl
