import SdlCodegen.Sdl.Lexeme

/-!
# Numbers and their range

A number has an integer part, a fraction and an exponent, the last two of which may be absent. The
numbers of a schema are not used, but one that is too large for a double-precision value is refused.

The size of a number is that of a significand times a power of ten. The significand has the leading
digits that fit in 64 bits; digits of the integer part beyond them raise the power, digits of the
fraction beyond them are dropped. A number is too large if the power exceeds 308 or if the product
of the two factors, each rounded to double precision, rounds to infinity. Near the largest double
this is stricter than rounding the exact value: `1.7976931348623158e308` is refused.
-/

namespace SdlCodegen.Sdl

/-- A number as written. The sign does not matter for the range. -/
structure NumberLiteral where
  integer : List Nat
  fraction : List Nat
  exponent : Int
  deriving DecidableEq, Repr

/-- The value of a decimal digit. -/
def digitValue (c : Char) : Nat :=
  c.toNat - '0'.toNat

/-- Take the longest run of digits, which may not be empty. -/
def scanDigits (cs : List Char) : Option (List Nat × List Char) :=
  match cs.takeWhile Char.isDigit with
  | [] => none
  | digits => some (digits.map digitValue, cs.dropWhile Char.isDigit)

/-- Take the digits of an integer part: a zero by itself or digits that begin with another. -/
def scanInteger : List Char → Option (List Nat × List Char)
  | '0' :: rest => some ([0], rest)
  | cs => scanDigits cs

/-- Take a sign if there is one; the flag tells whether it is a minus. -/
def scanSign : List Char → Bool × List Char
  | '-' :: rest => (true, rest)
  | '+' :: rest => (false, rest)
  | rest => (false, rest)

/-- Take a fraction if there is one. -/
def scanFraction : List Char → List Nat × List Char
  | '.' :: rest => (scanDigits rest).getD ([], '.' :: rest)
  | rest => ([], rest)

/-- The number that digits make. -/
def ofDigits (digits : List Nat) : Nat :=
  digits.foldl (fun value digit => value * 10 + digit) 0

/-- Take an exponent if there is one. -/
def scanExponent (cs : List Char) : Int × List Char :=
  match cs with
  | [] => (0, cs)
  | mark :: rest =>
    if mark = 'e' ∨ mark = 'E' then
      let (negative, unsigned) := scanSign rest
      match scanDigits unsigned with
      | none => (0, cs)
      | some (digits, after) =>
        (if negative then -(ofDigits digits : Int) else ofDigits digits, after)
    else (0, cs)

/-- Take a number, which no character of a name may follow. -/
def scanNumber (cs : List Char) : Option (NumberLiteral × List Char) := do
  let unsigned := match cs with
    | '-' :: rest => rest
    | rest => rest
  let (integer, afterInteger) ← scanInteger unsigned
  let (fraction, afterFraction) := scanFraction afterInteger
  let (exponent, rest) := scanExponent afterFraction
  match rest with
  | c :: _ => if isNameStart c then none else some (⟨integer, fraction, exponent⟩, rest)
  | [] => some (⟨integer, fraction, exponent⟩, [])

/-- Add digits to a significand while it stays below 2^64: the significand and the number of digits
that are left. -/
def significand : Nat → List Nat → Nat × Nat
  | value, [] => (value, 0)
  | value, digit :: digits =>
    if value * 10 + digit < 2 ^ 64 then significand (value * 10 + digit) digits
    else (value, digits.length + 1)

/-- Round to 53 significant bits, to the nearest value and on a tie to the even one. -/
def roundToDouble (value : Nat) : Nat :=
  if value < Nat.pow 2 53 then value
  else
    let unit := Nat.pow 2 (value.log2 - 52)
    let quotient := value / unit
    let excess := value % unit
    if 2 * excess > unit ∨ (2 * excess = unit ∧ quotient % 2 = 1) then (quotient + 1) * unit
    else quotient * unit

/-- Whether a number is too large for a double-precision value. -/
def NumberLiteral.overflows (number : NumberLiteral) : Bool :=
  let (whole, dropped) := significand 0 number.integer
  let (digits, ignored) := significand whole number.fraction
  let power := number.exponent + dropped - (number.fraction.length - ignored : Nat)
  digits != 0 && 0 ≤ power &&
    (power > 308 ||
      roundToDouble (roundToDouble digits * roundToDouble (Nat.pow 10 power.toNat)) ≥
        Nat.pow 2 1024)

end SdlCodegen.Sdl
