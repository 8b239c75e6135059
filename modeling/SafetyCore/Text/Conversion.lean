import Mathlib.Tactic.NormNum

/-!
# The number conversions of the C library

A conversion reads a number at the start of a string, after white space, and tells where
it stopped. A string that does not start with a number is left as it is.
-/

namespace Text

/-- What a conversion returns: its value, the string from `end` on, and whether it set
`errno` to `ERANGE`. -/
structure Conversion (β : Type*) where
  value : β
  rest : List Char
  erange : Bool

/-- `isspace` in the locale "C". -/
def isSpace (c : Char) : Bool := c = ' ' || '\t' ≤ c && c ≤ '\r'

/-- An optional sign: whether it is a minus, and what follows. -/
def splitSign : List Char → Bool × List Char
  | '+' :: s => (false, s)
  | '-' :: s => (true, s)
  | s => (false, s)

/-- The number that decimal digits denote. -/
def digitsValue (digits : List Char) : ℕ :=
  digits.foldl (fun n c => 10 * n + (c.toNat - '0'.toNat)) 0

/-- `strtoull(s, &end, 10)`. A minus negates the value in the unsigned type. -/
def strtoull (s : List Char) : Conversion UInt64 :=
  let (minus, body) := splitSign (s.dropWhile isSpace)
  let digits := body.takeWhile Char.isDigit
  let rest := body.dropWhile Char.isDigit
  if digits = [] then
    ⟨0, s, false⟩
  else if 2 ^ 64 ≤ digitsValue digits then
    ⟨18446744073709551615, rest, true⟩
  else
    let value := UInt64.ofNat (digitsValue digits)
    ⟨if minus then -value else value, rest, false⟩

end Text
