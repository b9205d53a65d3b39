import SdlCodegen.Text.Cut
import SdlCodegen.Text.Lowercase

/-!
# Naming conventions

A convention cuts a name into words and joins words into a name. Conversion cuts by one convention
and joins by another. Capitals and small letters are those of ASCII, except that joining words in
Pascal case first lower-cases each word by the full rules of its script.

No convention drops a character other than an underscore, so a name that is not written in the
convention it is read by still has words, some of them possibly empty.
-/

namespace SdlCodegen

/-- A way of writing a name of several words. -/
inductive Convention where
  | camel
  | pascal
  | snake
  | screaming
  deriving DecidableEq, Repr

namespace Convention

/-- Cut in front of every ASCII capital: the first word and the words after it. -/
def cutBeforeCapitals : List Char → List Char × List (List Char)
  | [] => ([], [])
  | c :: rest =>
    let (word, words) := cutBeforeCapitals rest
    if c.isUpper then ([], (c :: word) :: words) else (c :: word, words)

/-- The words of a name. Pascal case has no word in front of a leading capital. -/
def split : Convention → List Char → List (List Char)
  | camel, name =>
    let (word, words) := cutBeforeCapitals name
    word :: words
  | pascal, name =>
    match cutBeforeCapitals name with
    | ([], word :: words) => word :: words
    | (word, words) => word :: words
  | snake, name | screaming, name => Text.pieces '_' name

/-- Capitalise the first character and lower the others, in ASCII. -/
def capitalize : List Char → List Char
  | [] => []
  | c :: rest => c.toUpper :: rest.map Char.toLower

/-- A word in Pascal case: one that does not begin with an ASCII letter keeps its underscore. -/
def pascalWord (word : List Char) : List Char :=
  match Text.lowercase word with
  | [] => ['_']
  | c :: rest => if c.isLower then capitalize (c :: rest) else '_' :: c :: rest

/-- The name that words make. -/
def join : Convention → List (List Char) → List Char
  | camel, [] => []
  | camel, word :: words => word.map Char.toLower ++ words.flatMap capitalize
  | pascal, words => words.flatMap pascalWord
  | snake, words => List.intercalate ['_'] (words.map (·.map Char.toLower))
  | screaming, words => List.intercalate ['_'] (words.map (·.map Char.toUpper))

/-- The words of a name, as strings. -/
def words (convention : Convention) (name : String) : List String :=
  (convention.split name.toList).map String.ofList

/-- The name that words make, as a string. -/
def ofWords (convention : Convention) (words : List String) : String :=
  String.ofList (convention.join (words.map String.toList))

/-- Read a name by one convention and write it by another. -/
def convert (source target : Convention) (name : String) : String :=
  String.ofList (target.join (source.split name.toList))

end Convention

/-- The name of a struct field or method for a schema field, written in snake case. -/
def fieldName (name : String) : String :=
  Convention.convert .camel .snake name

/-- The name of a variant for an enum value, written in Pascal case. -/
def variantName (name : String) : String :=
  Convention.convert .screaming .pascal name

end SdlCodegen
