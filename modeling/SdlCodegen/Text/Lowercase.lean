import SdlCodegen.Text.CaseTable

/-!
# Lower-casing of whole texts

Full Unicode lower-casing without regard to a language. Every character has its small form by
itself, except the Greek capital sigma: at the end of a word, that is after a cased letter and not
before one, it becomes the final form `ς`, elsewhere `σ`.
-/

namespace SdlCodegen.Text

/-- The small form of one character; only the dotted capital I needs two characters. -/
def lowerChar (c : Char) : List Char :=
  if c.toNat < 128 then [c.toLower]
  else if c = 'İ' then ['i', '\u0307']
  else match caseRows.find? (·.covers c.toNat) with
    | some row => [Char.ofNat (row.target + (c.toNat - row.first))]
    | none => [c]

/-- Whether the first character that is not case-ignorable is a cased letter. -/
def meetsCased (cs : List Char) : Bool :=
  match cs.dropWhile caseIgnorableSet.contains with
  | c :: _ => casedSet.contains c
  | [] => false

/-- The small form of a capital sigma between the text before it, nearest first, and after it. -/
def lowerSigma (before after : List Char) : Char :=
  if meetsCased before && !meetsCased after then 'ς' else 'σ'

/-- Lower-case a text that follows `before`, which is given nearest character first. -/
def lowercaseAfter (before : List Char) : List Char → List Char
  | [] => []
  | c :: rest =>
    (if c = 'Σ' then [lowerSigma before rest] else lowerChar c) ++ lowercaseAfter (c :: before) rest

/-- Lower-case a whole text. -/
def lowercase (cs : List Char) : List Char :=
  lowercaseAfter [] cs

end SdlCodegen.Text
