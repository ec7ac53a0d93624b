import Switchboard.Number.Binary64

/-!
# Number — Shortest

The shortest decimal that reads back.  A decimal reads back as a number if it lies in the interval
of the reals that round to it; the ends belong to the interval if the significand is even.  For
one, two, … seventeen digits the two neighbours of the value on that grid are tried, and the first
grid with a hit wins; of two hits the nearer one, and of two equally near the even one.
-/

namespace Switchboard

/-- A decimal `digits · 10^exponent`. -/
structure Decimal where
  digits : Nat
  exponent : Int
  deriving DecidableEq

namespace Shortest

/-- The value of a positive number and the two ends of its interval, as numerators over one
denominator: `(low, value, high, denominator)`. -/
def interval (x : Binary64) : Nat × Nat × Nat × Nat :=
  let m := x.significand
  let low := if m = Nat.pow 2 52 ∧ Binary64.minExponent < x.exponent then 4 * m - 1 else 4 * m - 2
  match x.exponent - 2 with
  | .ofNat e => (low * Nat.pow 2 e, 4 * m * Nat.pow 2 e, (4 * m + 2) * Nat.pow 2 e, 1)
  | .negSucc e => (low, 4 * m, 4 * m + 2, Nat.pow 2 (e + 1))

/-- The least `k` with `num < 10^k · den`, from a start that is not too great. -/
def magnitude (num den : Nat) : Nat → Int → Int
  | 0, k => k
  | fuel + 1, k =>
      let below : Bool := match k with
        | .ofNat e => decide (num < Nat.pow 10 e * den)
        | .negSucc e => decide (num * Nat.pow 10 (e + 1) < den)
      if below then k else magnitude num den fuel (k + 1)

/-- A start for the search of the magnitude, at most three below it. -/
def magnitudeStart (num den : Nat) : Int :=
  let bits : Int := (Nat.log2 num : Int) - (Nat.log2 den : Int)
  (bits * 30103).fdiv 100000 - 1

/-- The decimal on the grid of `10^exponent` that is tried for a value inside an interval. -/
def onGrid? (inclusive : Bool) (bounds : Nat × Nat × Nat × Nat) (exponent : Int) :
    Option Decimal :=
  let (low, value, high, den) := bounds
  -- over one denominator, a grid step is `step` and the ends and the value are scaled by `scale`
  let (step, scale) := match exponent with
    | .ofNat e => (Nat.pow 10 e * den, 1)
    | .negSucc e => (den, Nat.pow 10 (e + 1))
  let inside (n : Nat) : Bool :=
    let at' := n * step
    if inclusive then low * scale ≤ at' && at' ≤ high * scale
    else low * scale < at' && at' < high * scale
  let floor := value * scale / step
  let nearest := roundHalfEven (value * scale) step
  let other := if nearest = floor then floor + 1 else floor
  if inside nearest then some ⟨nearest, exponent⟩
  else if inside other then some ⟨other, exponent⟩
  else none

/-- Tries grids from `digits` digits on. -/
def search (inclusive : Bool) (bounds : Nat × Nat × Nat × Nat) (top : Int) :
    Nat → Int → Option Decimal
  | 0, _ => none
  | fuel + 1, digits =>
      match onGrid? inclusive bounds (top - digits) with
      | some d => some d
      | none => search inclusive bounds top fuel (digits + 1)

/-- A decimal without the zeros at its end. -/
def strip : Nat → Decimal → Decimal
  | 0, d => d
  | fuel + 1, d =>
      if d.digits ≠ 0 ∧ d.digits % 10 = 0 then strip fuel ⟨d.digits / 10, d.exponent + 1⟩ else d

end Shortest

/-- The shortest decimal that reads back as the magnitude of the number. -/
def Binary64.shortest (x : Binary64) : Decimal :=
  if x.significand = 0 then ⟨0, 0⟩
  else
    let bounds := Shortest.interval x
    let (_, value, _, den) := bounds
    let top := Shortest.magnitude value den 8 (Shortest.magnitudeStart value den)
    match Shortest.search (x.significand % 2 = 0) bounds top 17 1 with
    | some d => Shortest.strip 17 d
    | none => ⟨value / den, 0⟩

end Switchboard
