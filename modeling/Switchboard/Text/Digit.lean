import Switchboard.Text.DigitTable

/-!
# Text — Digit

Digits and their values.  Every script's decimal digits count; a superscript or a circled digit is
a digit without a decimal value.
-/

namespace Switchboard.Text

/-- The value of a decimal digit of any script. -/
def decimalValue? (c : Char) : Option Nat :=
  let n := c.toNat
  if n < 128 then
    if 48 ≤ n && n ≤ 57 then some (n - 48) else none
  else
    (decimalZeros.find? fun first => first ≤ n && n < first + 10).map (n - ·)

/-- Whether the character has a decimal value. -/
def isDecimal (c : Char) : Bool :=
  (decimalValue? c).isSome

/-- Whether the character is a digit, decimal or not. -/
def isDigit (c : Char) : Bool :=
  isDecimal c || (128 ≤ c.toNat && otherDigitRanges.holds c.toNat)

/-- The number that a row of decimal digits denotes, or nothing if a character is none. -/
def decimalNumber? (cs : List Char) : Option Nat :=
  cs.foldl (fun acc c => do return (← acc) * 10 + (← decimalValue? c)) (some 0)

/-- The number that a row of ASCII digits denotes. -/
def asciiNumber (cs : List Char) : Nat :=
  cs.foldl (fun acc c => acc * 10 + (c.toNat - 48)) 0

end Switchboard.Text
