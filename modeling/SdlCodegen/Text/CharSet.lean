/-!
# Sets of characters

A set of characters is a list of inclusive ranges of code points. Membership is a linear search: the
tables are consulted only for characters outside ASCII or for short texts.
-/

namespace SdlCodegen.Text

/-- A set of characters, as inclusive ranges of code points. -/
structure CharSet where
  ranges : List (Nat × Nat)

/-- Whether some range of the set holds the character. -/
def CharSet.contains (set : CharSet) (c : Char) : Bool :=
  set.ranges.any fun range => range.1 ≤ c.toNat && c.toNat ≤ range.2

end SdlCodegen.Text
