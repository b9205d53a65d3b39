import SdlCodegen.Text.CharSet

/-!
# Blank characters

White space in the sense of the Unicode `White_Space` property, and the removal of it from the end
of a text.
-/

namespace SdlCodegen.Text

/-- The white-space characters. -/
def blankSet : CharSet := ⟨[
    (0x9, 0xD), (0x20, 0x20), (0x85, 0x85), (0xA0, 0xA0), (0x1680, 0x1680), (0x2000, 0x200A),
    (0x2028, 0x2029), (0x202F, 0x202F), (0x205F, 0x205F), (0x3000, 0x3000)
  ]⟩

/-- Whether a character is white space. -/
def isBlank (c : Char) : Bool :=
  blankSet.contains c

/-- Drop the white space at the end of a text. -/
def trimEnd : List Char → List Char
  | [] => []
  | c :: rest =>
    match trimEnd rest with
    | [] => if isBlank c then [] else [c]
    | kept => c :: kept

end SdlCodegen.Text
