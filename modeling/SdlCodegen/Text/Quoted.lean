import SdlCodegen.Text.EscapeTable

/-!
# Quoted text in messages

A name in a message stands between double quotes, so that its end and every character in it can be
seen. A quote and a backslash take a backslash, the common controls have letters, and a character
without a visible form of its own is written by its code point in hexadecimal digits.
-/

namespace SdlCodegen.Text

/-- A character written by its code point. -/
def escapeCode (c : Char) : List Char :=
  ['\\', 'u', '\x7b'] ++ Nat.toDigits 16 c.toNat ++ ['\x7d']

/-- Whether a character is written by its code point. -/
def needsCode (c : Char) : Bool :=
  if c.toNat < 0x80 then c.toNat < 0x20 || c.toNat == 0x7F else escapedSet.contains c

/-- One character as it stands between quotes. -/
def quoteChar (c : Char) : List Char :=
  match c with
  | '\x00' => ['\\', '0']
  | '\t' => ['\\', 't']
  | '\r' => ['\\', 'r']
  | '\n' => ['\\', 'n']
  | '\\' => ['\\', '\\']
  | '"' => ['\\', '"']
  | c => if needsCode c then escapeCode c else [c]

/-- A text between double quotes. -/
def quoted (text : String) : String :=
  String.ofList ('"' :: text.toList.flatMap quoteChar ++ ['"'])

end SdlCodegen.Text
