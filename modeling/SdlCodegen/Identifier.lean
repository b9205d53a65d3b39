import SdlCodegen.Text.IdentifierTable

/-!
# Identifiers of the generated code

A name that is a reserved word of the generated language is written as a raw identifier, with `r#`
in front. The few reserved words that may not be raw take an underscore at the end instead. Names
that are no identifiers for another reason, such as a digit in front, are left alone and are found
by `isValid`.
-/

namespace SdlCodegen.Identifier

/-- Reserved words that may not be written as raw identifiers. -/
def pathWords : List String :=
  ["crate", "self", "super", "Self", "_"]

/-- Reserved words that may be written as raw identifiers. -/
def keywords : List String :=
  ["as", "break", "const", "continue", "else", "enum", "extern", "false", "fn", "for", "if",
    "impl", "in", "let", "loop", "match", "mod", "move", "mut", "pub", "ref", "return", "static",
    "struct", "trait", "true", "type", "unsafe", "use", "where", "while", "async", "await", "dyn",
    "abstract", "become", "box", "do", "final", "macro", "override", "priv", "typeof", "unsized",
    "virtual", "yield", "try"]

/-- Make a name that is a reserved word usable as an identifier. -/
def escape (name : String) : String :=
  if name ∈ pathWords then name ++ "_"
  else if name ∈ keywords then "r#" ++ name
  else name

/-- Whether a character may begin an identifier. -/
def isStart (c : Char) : Bool :=
  if c.toNat < 128 then c.isAlpha || c == '_' else Text.identifierStartSet.contains c

/-- Whether a character may continue an identifier. -/
def isContinue (c : Char) : Bool :=
  isStart c || (if c.toNat < 128 then c.isDigit else Text.identifierMarkSet.contains c)

/-- Whether a text is an identifier when reserved words are left out of account. -/
def isPlain : List Char → Bool
  | [] => false
  | c :: rest => isStart c && rest.all isContinue

/-- Whether a name is an identifier, raw or not, when reserved words are left out of account. -/
def isValid (name : String) : Bool :=
  match name.toList with
  | 'r' :: '#' :: raw => isPlain raw && String.ofList raw ∉ pathWords
  | plain => isPlain plain

/-- Whether a name can stand for a type: an identifier that is no reserved word unless raw. -/
def isTypeName (name : String) : Bool :=
  isValid name && name ∉ keywords && name ∉ pathWords

end SdlCodegen.Identifier
