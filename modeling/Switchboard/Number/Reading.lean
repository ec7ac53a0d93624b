import Switchboard.Number.Binary64
import Switchboard.Text.Blank
import Switchboard.Text.Digit

/-!
# Number — Reading

The written numbers that are understood.  A row of at most 4300 digits behind an optional sign is a
whole number of any size.  Anything else must be a decimal: digits with an optional point and an
optional exponent, read as the nearest binary64 number.  White space of ASCII may stand around
either.
-/

namespace Switchboard.Reading

/-- Whole numbers have at most this many digits, leading zeros counted. -/
def maxDigits : Nat := 4300

/-- Takes an optional sign off a text: whether it is a minus, and the rest. -/
def splitSign : List Char → Bool × List Char
  | '-' :: cs => (true, cs)
  | '+' :: cs => (false, cs)
  | cs => (false, cs)

/-- Whether the text is a row of ASCII digits, at least one. -/
def isDigits (cs : List Char) : Bool :=
  !cs.isEmpty && cs.all Char.isDigit

/-- The whole number that a text denotes. -/
def int? (cs : List Char) : Option Int :=
  let (negative, digits) := splitSign (Text.trimWhile Text.isAsciiBlank cs)
  if isDigits digits && digits.length ≤ maxDigits then
    let n := Text.asciiNumber digits
    some (if negative then -(n : Int) else n)
  else none

/-- The exponent that ends a decimal: nothing, or `e` with an optional sign and digits. -/
def exponent? : List Char → Option Int
  | [] => some 0
  | c :: cs =>
      if c == 'e' || c == 'E' then
        let (negative, digits) := splitSign cs
        if isDigits digits then
          let n := Text.asciiNumber digits
          some (if negative then -(n : Int) else n)
        else none
      else none

/-- The digits before the point, the digits after it and the exponent of a decimal. -/
def parts? (cs : List Char) : Option (List Char × List Char × Int) := do
  let whole := cs.takeWhile Char.isDigit
  let rest := cs.dropWhile Char.isDigit
  let (fraction, rest) := match rest with
    | '.' :: rest => (rest.takeWhile Char.isDigit, rest.dropWhile Char.isDigit)
    | _ => ([], rest)
  if whole.isEmpty && fraction.isEmpty then none
  else return (whole, fraction, ← exponent? rest)

/-- The binary64 number nearest to `± n · 10^exponent`.  Far outside the range the answer is known
without the power. -/
def nearest (negative : Bool) (n : Nat) (exponent : Int) : Float64 :=
  if n = 0 then .finite (.zero negative)
  else
    let size : Int := (Nat.toDigits 10 n).length + exponent
    if 400 < size then .infinite negative
    else if size < -400 then .finite (.zero negative)
    else match exponent with
      | .ofNat e => .ofRatio negative (n * Nat.pow 10 e) 1
      | .negSucc e => .ofRatio negative n (Nat.pow 10 (e + 1))

/-- The binary64 number that a decimal denotes. -/
def decimal? (cs : List Char) : Option Float64 := do
  let (negative, cs) := splitSign (Text.trimWhile Text.isAsciiBlank cs)
  let (whole, fraction, exponent) ← parts? cs
  return nearest negative (Text.asciiNumber (whole ++ fraction)) (exponent - fraction.length)

end Switchboard.Reading
