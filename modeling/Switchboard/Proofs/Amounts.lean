import Mathlib.Algebra.Order.Field.Power
import Mathlib.Data.Rat.Floor
import Mathlib.Tactic.FieldSimp
import Switchboard.Number.Basic

/-!
# Proofs — Amounts

The rational number that a number denotes, its amount.  Numbers are compared by whole numbers only,
each numerator times the denominator of the other; this is the order of the amounts, for numbers of
any kind and size.

* `Binary64.amount`, `Number.amount`: what a number denotes.
* `Number.lt_iff`: numbers are in the order of their amounts.
* `Number.toInt?_eq_some`: a number is whole exactly if its amount is.
-/

namespace Switchboard

/-- A magnitude with a sign before it. -/
def signed (negative : Bool) (q : ℚ) : ℚ := if negative then -q else q

namespace Binary64

/-- The magnitude of a binary64 number. -/
def magnitude (x : Binary64) : ℚ := x.significand * 2 ^ x.exponent

/-- What a binary64 number denotes. -/
def amount (x : Binary64) : ℚ := signed x.negative x.magnitude

theorem magnitude_nonneg (x : Binary64) : 0 ≤ x.magnitude :=
  mul_nonneg (Nat.cast_nonneg _) (zpow_pos two_pos _).le

/-- The ratio of a binary64 number is its amount. -/
theorem ratio_eq (x : Binary64) : (x.ratio.1 : ℚ) / 2 ^ x.ratio.2 = x.amount := by
  obtain ⟨negative, significand, exponent⟩ := x
  unfold ratio amount signed magnitude
  cases exponent with
  | ofNat e => cases negative <;> simp
  | negSucc e => cases negative <;> simp [zpow_negSucc, div_eq_mul_inv]

end Binary64

namespace Number

/-- What a number denotes. -/
def amount : Number → ℚ
  | .int i => i
  | .float x => x.amount

/-- The ratio of a number is its amount. -/
theorem ratio_eq (n : Number) : (n.ratio.1 : ℚ) / 2 ^ n.ratio.2 = n.amount := by
  cases n with
  | int i => simp [ratio, amount]
  | float x => exact x.ratio_eq

/-- **Numbers are in the order of their amounts.** -/
theorem lt_iff {a b : Number} : a.lt b = true ↔ a.amount < b.amount := by
  have hcross : a.lt b = true ↔ a.ratio.1 * 2 ^ b.ratio.2 < b.ratio.1 * 2 ^ a.ratio.2 :=
    decide_eq_true_iff
  rw [hcross, ← ratio_eq a, ← ratio_eq b, div_lt_div_iff₀ (by positivity) (by positivity)]
  norm_cast

theorem lt_eq_false {a b : Number} : a.lt b = false ↔ b.amount ≤ a.amount := by
  rw [← not_lt, ← lt_iff, Bool.not_eq_true]

end Number

/-- A binary64 number is whole exactly if its amount is. -/
theorem Binary64.toInt?_eq_some {x : Binary64} {i : Int} : x.toInt? = some i ↔ x.amount = i := by
  have hpow : (0 : Int) < 2 ^ x.ratio.2 := by positivity
  have hamount : x.amount = i ↔ x.ratio.1 = i * 2 ^ x.ratio.2 := by
    rw [← x.ratio_eq, div_eq_iff (by positivity)]
    norm_cast
  have htoInt : x.toInt? =
      if x.ratio.1 % 2 ^ x.ratio.2 = 0 then some (x.ratio.1 / 2 ^ x.ratio.2) else none :=
    rfl
  rw [htoInt, hamount]
  constructor
  · intro h
    split at h
    · rename_i hwhole
      cases h
      exact (Int.ediv_mul_cancel (Int.dvd_of_emod_eq_zero hwhole)).symm
    · cases h
  · intro h
    rw [h, Int.mul_emod_left, if_pos rfl, Int.mul_ediv_cancel _ hpow.ne']

namespace Number

/-- **A number is whole exactly if its amount is.** -/
theorem toInt?_eq_some {n : Number} {i : Int} : n.toInt? = some i ↔ n.amount = i := by
  cases n with
  | int j => simp [toInt?, amount]
  | float x => exact Binary64.toInt?_eq_some

theorem toInt?_isNone {n : Number} : n.toInt?.isNone = true ↔ ∀ i : Int, n.amount ≠ i := by
  rw [Option.isNone_iff_eq_none, Option.eq_none_iff_forall_ne_some]
  exact forall_congr' fun i => not_congr toInt?_eq_some

end Number

end Switchboard
