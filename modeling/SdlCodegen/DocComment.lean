import SdlCodegen.Text.Blank
import SdlCodegen.Text.Cut

/-!
# Documentation comments

A description becomes one comment line per line of it. Lines end with a line feed; white space at
the end of a line, which includes a carriage return, is dropped, but a carriage return inside a line
stays. A description of nothing but white space gives no comment.
-/

namespace SdlCodegen

namespace Text

/-- The lines of a text; a line feed at the end does not begin another line. -/
def lines (cs : List Char) : List (List Char) :=
  let all := pieces '\n' cs
  if all.getLast? = some [] then all.dropLast else all

end Text

/-- A comment line with a given text. -/
def docLine (line : List Char) : String :=
  match Text.trimEnd line with
  | [] => "///"
  | kept => "/// " ++ String.ofList kept

/-- The comment lines for a description. -/
def docLines : Option String → List String
  | none => []
  | some comment =>
    if comment.toList.all Text.isBlank then [] else (Text.lines comment.toList).map docLine

end SdlCodegen
