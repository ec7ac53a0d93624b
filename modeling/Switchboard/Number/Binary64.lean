/-!
# Number — Binary64

Finite binary64 numbers as exact values.  A number is a sign, a significand below 2⁵³ and an
exponent of at least −1074; its value is ± significand · 2^exponent.  Rounding takes the nearest
number and, of two, the one with the even significand.  Everything is arithmetic on whole numbers,
so a statement about values needs no other theory.
-/

namespace Switchboard

/-- A finite binary64 number, with the sign kept apart so that there are two zeros. -/
structure Binary64 where
  negative : Bool
  significand : Nat
  exponent : Int
  deriving DecidableEq, Inhabited

/-- A binary64 number with the values that are not finite. -/
inductive Float64 where
  | finite (x : Binary64)
  | infinite (negative : Bool)
  | nan
  deriving DecidableEq

/-- The nearest whole number to `num / den`; a tie goes to the even one. -/
def roundHalfEven (num den : Nat) : Nat :=
  let q := num / den
  let twice := 2 * (num % den)
  if twice < den then q
  else if den < twice then q + 1
  else q + q % 2

/-- The ratio `num / den` divided by a power of two, as numerator and denominator. -/
def scaleRatio (num den : Nat) (exponent : Int) : Nat × Nat :=
  match exponent with
  | .ofNat e => (num, den * Nat.pow 2 e)
  | .negSucc e => (num * Nat.pow 2 (e + 1), den)

namespace Binary64

/-- The least exponent. -/
def minExponent : Int := -1074

/-- The greatest exponent. -/
def maxExponent : Int := 971

/-- Significands stay below this bound. -/
def significandBound : Nat := Nat.pow 2 53

/-- The zero of a sign. -/
def zero (negative : Bool) : Binary64 := ⟨negative, 0, minExponent⟩

/-- The exponent at which a positive ratio has a significand of 53 bits, or the least one. -/
def exponentOf (num den : Nat) : Int :=
  let guess : Int := (Nat.log2 num : Int) - (Nat.log2 den : Int) - 52
  let (n, d) := scaleRatio num den guess
  let exponent := if n / d < Nat.pow 2 52 then guess - 1 else guess
  max exponent minExponent

/-- The value as a whole numerator over a power of two. -/
def ratio (x : Binary64) : Int × Nat :=
  let signed (n : Nat) : Int := if x.negative then -(n : Int) else n
  match x.exponent with
  | .ofNat e => (signed (x.significand * Nat.pow 2 e), 0)
  | .negSucc e => (signed x.significand, e + 1)

/-- The value if it is whole. -/
def toInt? (x : Binary64) : Option Int :=
  let (num, k) := x.ratio
  if num % Nat.pow 2 k = 0 then some (num / Nat.pow 2 k) else none

end Binary64

/-- The binary64 number nearest to `± num / den`; one that is too great is infinite. -/
def Float64.ofRatio (negative : Bool) (num den : Nat) : Float64 :=
  if num = 0 then .finite (.zero negative)
  else
    let exponent := Binary64.exponentOf num den
    let (n, d) := scaleRatio num den exponent
    let rounded := roundHalfEven n d
    let (significand, exponent) :=
      if rounded = Binary64.significandBound then (rounded / 2, exponent + 1)
      else (rounded, exponent)
    if Binary64.maxExponent < exponent then .infinite negative
    else .finite ⟨negative, significand, exponent⟩

end Switchboard
