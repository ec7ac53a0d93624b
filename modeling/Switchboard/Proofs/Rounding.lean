import Mathlib.Algebra.Order.Ring.Abs
import Mathlib.Tactic.Linarith
import Switchboard.Argument.Builder
import Switchboard.Proofs.Amounts
import Switchboard.Proofs.Magnitude

/-!
# Proofs — Rounding

What a decimal is read as.  The numbers that binary64 has and that are not below the exponent of a
ratio lie on the grid of the whole multiples of a power of two; the others are smaller than all that
the ratio can be rounded to.  So the multiple that is nearest to the ratio is the nearest number,
and of two that are equally near it is the even one.

* `roundHalfEven_near`: the nearest whole number.
* `exponentOf_bounds`: the grid that a ratio is rounded on.
* `Binary64.Rounds`, `Float64.Rounds`: what a number is rounded to.
* `ofRatio_rounds`: a ratio is rounded to the nearest number, or it is beyond the range of binary64
  numbers.
* `nearest_rounds`: so is a decimal.
-/

namespace Switchboard

/-! ### The nearest whole number -/

/-- **What a ratio is rounded to is at most a half away**, and if it is a half, it is even. -/
theorem roundHalfEven_near (num : Nat) {den : Nat} (hden : 0 < den) :
    |(roundHalfEven num den : ℚ) - num / den| ≤ 1 / 2 ∧
      (|(roundHalfEven num den : ℚ) - num / den| = 1 / 2 → Even (roundHalfEven num den)) := by
  have hpos : (0 : ℚ) < den := by exact_mod_cast hden
  -- The ratio is its whole part and a part of one, which is compared with a half.
  obtain ⟨part, hpart⟩ : ∃ part : ℚ, part = (num % den : Nat) / den := ⟨_, rfl⟩
  have hratio : (num : ℚ) / den = (num / den : Nat) + part := by
    rw [hpart, div_eq_iff hpos.ne', add_mul, div_mul_cancel₀ _ hpos.ne']
    exact_mod_cast (Nat.div_add_mod' num den).symm
  have hnonneg : 0 ≤ part := hpart ▸ by positivity
  have hone : part ≤ 1 := by
    rw [hpart]
    exact (div_le_one hpos).mpr (by exact_mod_cast (Nat.mod_lt num hden).le)
  have htwice : 2 * part = (2 * (num % den) : Nat) / den := by
    rw [hpart, ← mul_div_assoc]
    push_cast
    rfl
  unfold roundHalfEven
  dsimp only
  rw [hratio]
  split
  · rename_i hlow
    have hlow' : 2 * part < 1 := by
      rw [htwice, div_lt_one hpos]
      exact_mod_cast hlow
    rw [sub_add_cancel_left, abs_neg, abs_of_nonneg hnonneg]
    exact ⟨by linarith, fun h => by linarith⟩
  split
  · rename_i hhigh
    have hhigh' : 1 < 2 * part := by
      rw [htwice, one_lt_div hpos]
      exact_mod_cast hhigh
    push_cast
    rw [add_sub_add_left_eq_sub, abs_of_nonneg (sub_nonneg.mpr hone)]
    exact ⟨by linarith, fun h => by linarith⟩
  · rename_i hlow hhigh
    have htie : part = 1 / 2 := by
      have heq : 2 * (num % den) = den := le_antisymm (not_lt.mp hhigh) (not_lt.mp hlow)
      rw [heq, div_self hpos.ne'] at htwice
      linarith
    rw [htie]
    rcases Nat.even_or_odd (num / den) with heven | hodd
    · rw [Nat.even_iff.mp heven, Nat.add_zero, sub_add_cancel_left, abs_neg,
        abs_of_pos one_half_pos]
      exact ⟨le_rfl, fun _ => heven⟩
    · rw [Nat.odd_iff.mp hodd]
      push_cast
      rw [add_sub_add_left_eq_sub, abs_of_pos (by norm_num)]
      exact ⟨by norm_num, fun _ => hodd.add_one⟩

/-- All other whole numbers are at least a half away. -/
theorem half_le_of_near {r k : Int} {t : ℚ} (hnear : |(r : ℚ) - t| ≤ 1 / 2) (hne : k ≠ r) :
    1 / 2 ≤ |(k : ℚ) - t| := by
  have hapart : (1 : ℚ) ≤ |(k : ℚ) - r| := by
    exact_mod_cast Int.one_le_abs (sub_ne_zero.mpr hne)
  have htriangle : |(k : ℚ) - r| ≤ |(k : ℚ) - t| + |t - r| := abs_sub_le _ _ _
  rw [abs_sub_comm t] at htriangle
  linarith

/-! ### The grid -/

/-- The ratio has at least 52 bits at the exponent that its logarithms give. -/
theorem not_fits_guess {num : Nat} (hnum : num ≠ 0) (den : Nat) :
    ¬ Fits num den (guess num den) 51 := by
  have hp : ((Nat.log2 den + 52 : Nat) : Int) + guess num den = Nat.log2 num := by
    unfold guess
    omega
  rw [fits_iff hp, not_lt]
  calc 2 ^ 51 * (den * 2 ^ Nat.log2 num)
      ≤ 2 ^ 51 * (2 ^ (Nat.log2 den + 1) * num) :=
        Nat.mul_le_mul_left _ (Nat.mul_le_mul Nat.lt_log2_self.le (Nat.log2_self_le hnum))
    _ = num * 2 ^ (Nat.log2 den + 52) := by ring

section

variable {num den : Nat} (hden : 0 < den)

include hden

/-- A scaled ratio is the ratio, divided by a power of two. -/
theorem scaleRatio_eq (num : Nat) (exponent : Int) :
    ((scaleRatio num den exponent).1 : ℚ) / (scaleRatio num den exponent).2 =
      num / den / 2 ^ exponent := by
  have hpos : (0 : ℚ) < den := by exact_mod_cast hden
  cases exponent with
  | ofNat e =>
      have hscaled : scaleRatio num den (.ofNat e) = (num, den * 2 ^ e) := rfl
      rw [hscaled]
      simp [div_div]
  | negSucc e =>
      have hscaled : scaleRatio num den (.negSucc e) = (num * 2 ^ (e + 1), den) := rfl
      rw [hscaled, zpow_negSucc]
      field_simp
      push_cast
      ring

theorem fits_iff_lt {exponent : Int} {bits : Nat} :
    Fits num den exponent bits ↔ (num / den / 2 ^ exponent : ℚ) < 2 ^ bits := by
  have hpos : (0 : ℚ) < (scaleRatio num den exponent).2 := by
    exact_mod_cast scaleRatio_pos hden num exponent
  rw [← scaleRatio_eq hden, div_lt_iff₀ hpos, Fits]
  norm_cast

/-- **The grid that a ratio is rounded on.**  The ratio has at most 53 bits there, and it has 53
bits if the exponent is not the least one. -/
theorem exponentOf_bounds (hnum : num ≠ 0) :
    (num / den / 2 ^ Binary64.exponentOf num den : ℚ) < 2 ^ 53 ∧
      (Binary64.exponentOf num den = Binary64.minExponent ∨
        (2 ^ 52 : ℚ) ≤ num / den / 2 ^ Binary64.exponentOf num den) := by
  refine ⟨(fits_iff_lt hden).mp (fits_exponentOf hden num), ?_⟩
  rw [or_iff_not_imp_left, exponentOf_eq]
  intro hleast
  have hmax := max_choice (if (scaleRatio num den (guess num den)).1 /
      (scaleRatio num den (guess num den)).2 < 2 ^ 52 then guess num den - 1 else guess num den)
    Binary64.minExponent
  rw [hmax.resolve_right hleast, ← not_lt, ← fits_iff_lt hden]
  have hdiv : (scaleRatio num den (guess num den)).1 / (scaleRatio num den (guess num den)).2 <
      2 ^ 52 ↔ Fits num den (guess num den) 52 :=
    Nat.div_lt_iff_lt_mul (scaleRatio_pos hden num _)
  split
  · -- One more bit would make the guess too great.
    intro hfits
    refine not_fits_guess hnum den ?_
    rw [fits_iff_lt hden] at hfits ⊢
    have hpred : (num / den / 2 ^ (guess num den - 1) : ℚ) = num / den / 2 ^ guess num den * 2 := by
      rw [zpow_sub_one₀ two_ne_zero, ← div_eq_mul_inv, div_div_eq_mul_div, mul_div_right_comm]
    rw [hpred] at hfits
    linarith
  · rename_i h
    exact h ∘ hdiv.mpr

end

/-- What has 53 bits at an exponent has at most 52 bits at the greater ones. -/
theorem bits_mul_zpow_le {exponent greater : Int} (h : exponent < greater) :
    (2 ^ 53 : ℚ) * 2 ^ exponent ≤ 2 ^ 52 * 2 ^ greater :=
  calc (2 ^ 53 : ℚ) * 2 ^ exponent = 2 ^ 52 * 2 ^ (exponent + 1) := by
        rw [zpow_add_one₀ two_ne_zero]
        ring
    _ ≤ 2 ^ 52 * 2 ^ greater :=
        mul_le_mul_of_nonneg_left (zpow_le_zpow_right₀ one_le_two h) (by positivity)

/-! ### The nearest number -/

/-- **What a number is rounded to**: a number that binary64 has, as near as any, and with an even
significand if another one is equally near. -/
structure Binary64.Rounds (q : ℚ) (x : Binary64) : Prop where
  valid : x.Valid
  /-- The significand has 53 bits if the exponent is not the least one. -/
  normal : x.exponent = Binary64.minExponent ∨ 2 ^ 52 ≤ x.significand
  nearest : ∀ y : Binary64, y.Valid → |x.amount - q| ≤ |y.amount - q|
  even : ∀ y : Binary64, y.Valid → |y.amount - q| = |x.amount - q| → y.amount ≠ x.amount →
    Even x.significand

/-- What a magnitude with a sign before it is rounded to, if there is no bound on the exponent: from
a half step above the greatest number on it is infinite. -/
def Float64.Rounds (negative : Bool) (a : ℚ) : Float64 → Prop
  | .finite x => x.negative = negative ∧ a < Argument.floatRange ∧ x.Rounds (signed negative a)
  | .infinite sign => sign = negative ∧ Argument.floatRange ≤ a
  | .nan => False

theorem abs_signed (negative : Bool) (a : ℚ) : |signed negative a| = |a| := by
  cases negative
  · rfl
  · exact abs_neg a

theorem signed_sub_signed (negative : Bool) (a b : ℚ) :
    |signed negative a - signed negative b| = |a - b| := by
  cases negative
  · rfl
  · show |-a - -b| = |a - b|
    rw [neg_sub_neg, abs_sub_comm]

namespace Binary64

theorem magnitude_zero (negative : Bool) : (zero negative).magnitude = 0 := by
  simp [magnitude, zero]

theorem abs_amount (x : Binary64) : |x.amount| = x.magnitude :=
  (abs_signed _ _).trans (abs_of_nonneg x.magnitude_nonneg)

/-- Numbers of one magnitude are equal or opposite. -/
theorem amount_eq_or_neg {x y : Binary64} (h : y.magnitude = x.magnitude) :
    y.amount = x.amount ∨ y.amount = -x.amount := by
  rw [← abs_amount, ← abs_amount] at h
  exact abs_eq_abs.mp h

/-- A number whose magnitude is rounded is rounded, with the sign that it has. -/
theorem rounds_of_magnitude {x : Binary64} {a : ℚ} (ha : 0 ≤ a) (hvalid : x.Valid)
    (hnormal : x.exponent = minExponent ∨ 2 ^ 52 ≤ x.significand)
    (h : ∀ y : Binary64, y.Valid → |x.magnitude - a| ≤ |y.magnitude - a| ∧
      (|y.magnitude - a| = |x.magnitude - a| → y.magnitude ≠ x.magnitude → Even x.significand)) :
    x.Rounds (signed x.negative a) := by
  have hx : |x.amount - signed x.negative a| = |x.magnitude - a| := signed_sub_signed _ _ _
  have hy (y : Binary64) : |y.magnitude - a| ≤ |y.amount - signed x.negative a| := by
    have hsigns := abs_abs_sub_abs_le y.amount (signed x.negative a)
    rwa [abs_amount, abs_signed, abs_of_nonneg ha] at hsigns
  refine ⟨hvalid, hnormal, fun y hvalid' => ?_, fun y hvalid' htie hne => ?_⟩
  · rw [hx]
    exact (h y hvalid').1.trans (hy y)
  · obtain ⟨hnear, heven⟩ := h y hvalid'
    refine heven (le_antisymm ((hy y).trans (htie.trans hx).le) hnear) fun hmagnitude => hne ?_
    -- Of two opposite numbers only that of the same sign is as near, but for zero.
    have hopposite := (amount_eq_or_neg hmagnitude).resolve_left hne
    rw [hopposite] at htie ⊢
    rcases abs_eq_abs.mp htie with heq | heq
    · linarith
    · have hsigned : signed x.negative a = 0 := by linarith
      have hnone : a = 0 := by
        rw [← abs_of_nonneg ha, ← abs_signed x.negative, hsigned, abs_zero]
      have hzero := (h (zero false) (zero_valid false)).1
      rw [magnitude_zero, hnone, sub_zero, sub_zero, abs_zero, abs_nonpos_iff, ← abs_amount,
        abs_eq_zero] at hzero
      rw [hzero, neg_zero]

/-- A number is a multiple of every power of two of no greater exponent. -/
theorem magnitude_eq_multiple {y : Binary64} {exponent : Int} (h : exponent ≤ y.exponent) :
    y.magnitude =
      ((y.significand * 2 ^ (y.exponent - exponent).toNat : Int) : ℚ) * 2 ^ exponent := by
  have hexponent : y.exponent = ((y.exponent - exponent).toNat : Int) + exponent := by omega
  conv_lhs => rw [magnitude, hexponent, zpow_add₀ two_ne_zero, zpow_natCast]
  push_cast
  ring

/-- The numbers of lesser exponents have less than 53 bits at an exponent. -/
theorem magnitude_lt_of_exponent_lt {y : Binary64} {exponent : Int} (hy : y.Valid)
    (h : y.exponent < exponent) : y.magnitude < 2 ^ 52 * 2 ^ exponent := by
  have hsignificand : (y.significand : ℚ) < 2 ^ 53 := by exact_mod_cast hy.below
  exact (mul_lt_mul_of_pos_right hsignificand (zpow_pos two_pos _)).trans_le (bits_mul_zpow_le h)

/-- **The nearest multiple is the nearest number**, if the numbers that are no multiples are smaller
than the magnitude. -/
theorem nearest_of_near {a : ℚ} {exponent : Int} {r : Nat}
    (hnear : |(r : ℚ) - a / 2 ^ exponent| ≤ 1 / 2)
    (heven : |(r : ℚ) - a / 2 ^ exponent| = 1 / 2 → Even r)
    (hgrid : exponent = minExponent ∨ (2 ^ 52 : ℚ) ≤ a / 2 ^ exponent) {y : Binary64}
    (hy : y.Valid) :
    |r * 2 ^ exponent - a| ≤ |y.magnitude - a| ∧
      (|y.magnitude - a| = |r * 2 ^ exponent - a| → y.magnitude ≠ r * 2 ^ exponent → Even r) := by
  have hpow : (0 : ℚ) < 2 ^ exponent := zpow_pos two_pos _
  -- Distances on the grid are those of whole numbers, a power of two times.
  have hscale (k : ℚ) : |k * 2 ^ exponent - a| = |k - a / 2 ^ exponent| * 2 ^ exponent := by
    rw [← abs_of_pos hpow, ← abs_mul, abs_of_pos hpow, sub_mul, div_mul_cancel₀ _ hpow.ne']
  have hother (k : Int) (hk : k ≠ r) :
      |(r : ℚ) * 2 ^ exponent - a| ≤ |(k : ℚ) * 2 ^ exponent - a| ∧
        (|(k : ℚ) * 2 ^ exponent - a| = |(r : ℚ) * 2 ^ exponent - a| → Even r) := by
    have hfar : 1 / 2 ≤ |(k : ℚ) - a / 2 ^ exponent| := half_le_of_near hnear hk
    rw [hscale, hscale]
    refine ⟨mul_le_mul_of_nonneg_right (hnear.trans hfar) hpow.le, fun htie => heven ?_⟩
    have htie' := mul_right_cancel₀ hpow.ne' htie
    linarith
  by_cases hle : exponent ≤ y.exponent
  · -- The other number is on the grid.
    rw [magnitude_eq_multiple hle]
    by_cases hk : (y.significand * 2 ^ (y.exponent - exponent).toNat : Int) = r
    · rw [hk]
      exact ⟨le_rfl, fun _ hne => absurd rfl hne⟩
    · obtain ⟨hle', htie⟩ := hother _ hk
      exact ⟨hle', fun h _ => htie h⟩
  · -- It is below the grid, and below the least multiple that the magnitude can be rounded to.
    have hleast : (2 ^ 52 : ℚ) ≤ a / 2 ^ exponent := by
      refine hgrid.resolve_left fun hmin => hle ?_
      rw [hmin]
      exact hy.least
    have hbelow := magnitude_lt_of_exponent_lt hy (not_le.mp hle)
    have hge : 2 ^ 52 * 2 ^ exponent ≤ a := (le_div_iff₀ hpow).mp hleast
    have hfar : |(r : ℚ) * 2 ^ exponent - a| < |y.magnitude - a| := by
      have hedge : |(r : ℚ) * 2 ^ exponent - a| ≤ |2 ^ 52 * 2 ^ exponent - a| := by
        by_cases hr : ((2 ^ 52 : Nat) : Int) = r
        · have hr' : (r : ℚ) = 2 ^ 52 := by exact_mod_cast hr.symm
          rw [hr']
        · have hle' := (hother _ hr).1
          push_cast at hle'
          exact hle'
      refine hedge.trans_lt ?_
      rw [abs_of_nonpos (by linarith), abs_of_nonpos (by linarith)]
      linarith
    exact ⟨hfar.le, fun htie => absurd htie hfar.ne'⟩

/-- What lies where a magnitude is rounded to on its grid is what the magnitude is rounded to. -/
theorem rounds_of_near {x : Binary64} {a : ℚ} {exponent : Int} {r : Nat} (ha : 0 ≤ a)
    (hnear : |(r : ℚ) - a / 2 ^ exponent| ≤ 1 / 2)
    (heven : |(r : ℚ) - a / 2 ^ exponent| = 1 / 2 → Even r)
    (hgrid : exponent = minExponent ∨ (2 ^ 52 : ℚ) ≤ a / 2 ^ exponent) (hvalid : x.Valid)
    (hnormal : x.exponent = minExponent ∨ 2 ^ 52 ≤ x.significand)
    (hmagnitude : x.magnitude = r * 2 ^ exponent) (hsignificand : Even r → Even x.significand) :
    x.Rounds (signed x.negative a) := by
  refine rounds_of_magnitude ha hvalid hnormal fun y hy => ?_
  rw [hmagnitude]
  obtain ⟨hnearest, htie⟩ := nearest_of_near hnear heven hgrid hy
  exact ⟨hnearest, fun h hne => hsignificand (htie h hne)⟩

end Binary64

/-! ### The range -/

theorem floatRange_eq :
    (Argument.floatRange : ℚ) = (2 ^ 53 - 1 / 2) * 2 ^ Binary64.maxExponent := by
  have hmax : (2 : ℚ) ^ Binary64.maxExponent = 2 * 2 ^ 970 := by
    rw [← pow_succ']
    exact zpow_natCast 2 971
  have hbits : 1024 = 54 + 970 := rfl
  rw [hmax, Argument.floatRange, hbits]
  generalize 970 = n
  have hle : 2 ^ n ≤ 2 ^ (54 + n) := Nat.pow_le_pow_right Nat.two_pos (Nat.le_add_left n 54)
  calc ((Nat.pow 2 (54 + n) - Nat.pow 2 n : Nat) : ℚ) = (2 ^ (54 + n) : Nat) - (2 ^ n : Nat) :=
        Nat.cast_sub hle
    _ = (2 ^ 53 - 1 / 2) * (2 * 2 ^ n) := by
        push_cast
        ring

section

variable {a : ℚ} {exponent : Int} {r : Nat} (hnear : |(r : ℚ) - a / 2 ^ exponent| ≤ 1 / 2)
  (heven : |(r : ℚ) - a / 2 ^ exponent| = 1 / 2 → Even r)

include hnear heven

/-- At the greatest exponent, what is rounded up to 2⁵³ is at most a half below. -/
theorem eq_significandBound_iff (hbelow : a / 2 ^ exponent < 2 ^ 53) :
    r = Binary64.significandBound ↔ (2 ^ 53 - 1 / 2 : ℚ) ≤ a / 2 ^ exponent := by
  have hcast : r = Binary64.significandBound ↔ (r : ℚ) = 2 ^ 53 := by
    show r = 2 ^ 53 ↔ (r : ℚ) = 2 ^ 53
    norm_cast
  rw [hcast]
  obtain ⟨hlow, hhigh⟩ := abs_le.mp hnear
  constructor
  · intro h
    rw [h] at hhigh
    linarith
  · intro h
    by_contra hne
    have hlt : r < 2 ^ 53 := by
      have hlt' : (r : ℚ) < 2 ^ 53 + 1 := by linarith
      have hle : r ≤ 2 ^ 53 := Nat.lt_add_one_iff.mp (by exact_mod_cast hlt')
      exact hle.lt_of_ne fun h => hne (by exact_mod_cast h)
    have hle : (r : ℚ) ≤ 2 ^ 53 - 1 := by
      have hle' : (r : ℚ) + 1 ≤ 2 ^ 53 := by exact_mod_cast hlt
      linarith
    -- It is a tie between 2⁵³ and the odd number before it.
    have htie : (r : ℚ) - a / 2 ^ exponent = -(1 / 2) := by linarith
    have hr : r = 2 ^ 53 - 1 := by
      have hr' : (r : ℚ) + 1 = 2 ^ 53 := by linarith
      exact Nat.eq_sub_of_add_eq (by exact_mod_cast hr')
    have hodd := heven (by rw [htie, abs_neg, abs_of_pos one_half_pos])
    rw [hr] at hodd
    revert hodd
    decide

/-- **A magnitude is out of range exactly if its exponent is too great after rounding.** -/
theorem floatRange_le_iff (hbelow : a / 2 ^ exponent < 2 ^ 53)
    (hgrid : exponent = Binary64.minExponent ∨ (2 ^ 52 : ℚ) ≤ a / 2 ^ exponent) :
    (Argument.floatRange : ℚ) ≤ a ↔
      Binary64.maxExponent < if r = Binary64.significandBound then exponent + 1 else exponent := by
  have hpow : (0 : ℚ) < 2 ^ exponent := zpow_pos two_pos _
  have hmax : (0 : ℚ) < 2 ^ Binary64.maxExponent := zpow_pos two_pos _
  rw [floatRange_eq]
  rcases lt_trichotomy exponent Binary64.maxExponent with hlt | rfl | hgt
  · have ha : a < (2 ^ 53 - 1 / 2) * 2 ^ Binary64.maxExponent :=
      calc a < 2 ^ 53 * 2 ^ exponent := (div_lt_iff₀ hpow).mp hbelow
        _ ≤ 2 ^ 52 * 2 ^ Binary64.maxExponent := bits_mul_zpow_le hlt
        _ ≤ (2 ^ 53 - 1 / 2) * 2 ^ Binary64.maxExponent :=
            mul_le_mul_of_nonneg_right (by norm_num) hmax.le
    refine iff_of_false ha.not_ge ?_
    split <;> omega
  · rw [← le_div_iff₀ hpow, ← eq_significandBound_iff hnear heven hbelow]
    split
    · rename_i hcarry
      exact iff_of_true hcarry (Int.lt_add_one_iff.mpr le_rfl)
    · rename_i hcarry
      exact iff_of_false hcarry (lt_irrefl _)
  · have hnormal : (2 ^ 52 : ℚ) ≤ a / 2 ^ exponent := by
      refine hgrid.resolve_left ?_
      rintro rfl
      exact absurd hgt (by decide)
    have ha : (2 ^ 53 - 1 / 2) * 2 ^ Binary64.maxExponent ≤ a :=
      calc (2 ^ 53 - 1 / 2 : ℚ) * 2 ^ Binary64.maxExponent
          ≤ 2 ^ 53 * 2 ^ Binary64.maxExponent :=
            mul_le_mul_of_nonneg_right (by norm_num) hmax.le
        _ ≤ 2 ^ 52 * 2 ^ exponent := bits_mul_zpow_le hgt
        _ ≤ a := (le_div_iff₀ hpow).mp hnormal
    refine iff_of_true ha ?_
    split <;> omega

end

/-! ### Ratios and decimals -/

/-- What a ratio is rounded to on its grid. -/
def onGrid (num den : Nat) : Nat :=
  roundHalfEven (scaleRatio num den (Binary64.exponentOf num den)).1
    (scaleRatio num den (Binary64.exponentOf num den)).2

/-- Rounding up to 2⁵³ takes the next exponent. -/
theorem ofRatio_eq {negative : Bool} {num den : Nat} (hnum : num ≠ 0) :
    Float64.ofRatio negative num den =
      if Binary64.maxExponent < (if onGrid num den = Binary64.significandBound then
          Binary64.exponentOf num den + 1 else Binary64.exponentOf num den) then
        .infinite negative
      else if onGrid num den = Binary64.significandBound then
        .finite ⟨negative, onGrid num den / 2, Binary64.exponentOf num den + 1⟩
      else .finite ⟨negative, onGrid num den, Binary64.exponentOf num den⟩ := by
  unfold Float64.ofRatio
  rw [if_neg hnum]
  dsimp only
  rw [← onGrid]
  by_cases hcarry : onGrid num den = Binary64.significandBound
  · simp only [if_pos hcarry]
  · simp only [if_neg hcarry]

/-- A number that is smaller than half of the least one is rounded to zero. -/
theorem zero_rounds_of_lt {negative : Bool} {q : ℚ} (h : |q| < 2 ^ Binary64.minExponent / 2) :
    (Binary64.zero negative).Rounds q := by
  have hnear (y : Binary64) (hy : y.Valid) : y.amount = 0 ∨ |q| < |y.amount - q| := by
    by_cases hzero : y.significand = 0
    · left
      rw [← abs_eq_zero, Binary64.abs_amount, Binary64.magnitude, hzero, Nat.cast_zero, zero_mul]
    · right
      have hleast : (2 : ℚ) ^ Binary64.minExponent ≤ |y.amount| := by
        rw [Binary64.abs_amount]
        have hone : (1 : ℚ) ≤ y.significand := by exact_mod_cast Nat.one_le_iff_ne_zero.mpr hzero
        calc (2 : ℚ) ^ Binary64.minExponent ≤ 2 ^ y.exponent :=
              zpow_le_zpow_right₀ one_le_two hy.least
          _ ≤ y.significand * 2 ^ y.exponent := le_mul_of_one_le_left (zpow_pos two_pos _).le hone
      have htriangle := abs_sub_abs_le_abs_sub y.amount q
      linarith
  have hamount : |(Binary64.zero negative).amount - q| = |q| := by
    have hzero : (Binary64.zero negative).amount = 0 := by
      rw [← abs_eq_zero, Binary64.abs_amount, Binary64.magnitude_zero]
    rw [hzero, zero_sub, abs_neg]
  refine ⟨Binary64.zero_valid negative, .inl rfl, fun y hy => ?_, fun _ _ _ _ => Even.zero⟩
  rw [hamount]
  rcases hnear y hy with hzero | hlt
  · rw [hzero, zero_sub, abs_neg]
  · exact hlt.le

theorem one_lt_floatRange : (1 : ℚ) < Argument.floatRange := by
  rw [floatRange_eq]
  exact one_lt_mul_of_lt_of_le (by norm_num) (one_le_zpow₀ one_le_two (by decide))

theorem signed_zero (negative : Bool) : signed negative 0 = 0 := by
  cases negative
  · rfl
  · exact neg_zero

/-- Zero is rounded to zero. -/
theorem zero_rounds (negative : Bool) : (Float64.finite (.zero negative)).Rounds negative 0 := by
  refine ⟨rfl, zero_lt_one.trans one_lt_floatRange, ?_⟩
  rw [signed_zero]
  refine zero_rounds_of_lt ?_
  rw [abs_zero]
  positivity

/-- **A ratio is rounded to the nearest number.** -/
theorem ofRatio_rounds (negative : Bool) (num : Nat) {den : Nat} (hden : 0 < den) :
    (Float64.ofRatio negative num den).Rounds negative (num / den) := by
  by_cases hnum : num = 0
  · have hzero : Float64.ofRatio negative num den = .finite (.zero negative) := if_pos hnum
    rw [hzero, hnum, Nat.cast_zero, zero_div]
    exact zero_rounds negative
  obtain ⟨hbelow, hgrid⟩ := exponentOf_bounds hden hnum
  obtain ⟨hnear, heven⟩ :=
    roundHalfEven_near (scaleRatio num den (Binary64.exponentOf num den)).1
      (scaleRatio_pos hden num (Binary64.exponentOf num den))
  rw [scaleRatio_eq hden, ← onGrid] at hnear heven
  have hrange := floatRange_le_iff hnear heven hbelow hgrid
  have hvalid : ∀ x, Float64.ofRatio negative num den = .finite x → x.Valid :=
    fun x => ofRatio_valid hden
  have hratio : (0 : ℚ) ≤ num / den := by positivity
  rw [ofRatio_eq hnum] at hvalid ⊢
  generalize onGrid num den = r at *
  generalize Binary64.exponentOf num den = exponent at *
  by_cases hgreat : Binary64.maxExponent <
      if r = Binary64.significandBound then exponent + 1 else exponent
  · rw [if_pos hgreat]
    exact ⟨rfl, hrange.mpr hgreat⟩
  rw [if_neg hgreat] at hvalid ⊢
  have hfinite : (num / den : ℚ) < Argument.floatRange := not_le.mp (hgreat ∘ hrange.mp)
  by_cases hcarry : r = Binary64.significandBound
  · rw [if_pos hcarry] at hvalid ⊢
    refine ⟨rfl, hfinite, Binary64.rounds_of_near hratio hnear heven hgrid (hvalid _ rfl) ?_ ?_ ?_⟩
    · refine .inr ?_
      rw [hcarry]
      show 2 ^ 52 ≤ Binary64.significandBound / 2
      decide
    · rw [hcarry]
      show ((2 ^ 52 : Nat) : ℚ) * 2 ^ (exponent + 1) = (2 ^ 53 : Nat) * 2 ^ exponent
      rw [zpow_add_one₀ two_ne_zero]
      push_cast
      ring
    · intro _
      rw [hcarry]
      show Even (Binary64.significandBound / 2)
      decide
  · rw [if_neg hcarry] at hvalid ⊢
    refine ⟨rfl, hfinite,
      Binary64.rounds_of_near hratio hnear heven hgrid (hvalid _ rfl) (hgrid.imp_right ?_) rfl id⟩
    intro hnormal
    have hlow := (abs_le.mp hnear).1
    have hlt : ((2 ^ 52 : Nat) : ℚ) < (r + 1 : Nat) := by
      push_cast
      linarith
    exact Nat.lt_add_one_iff.mp (by exact_mod_cast hlt)

/-- How many digits a number has says how great it is. -/
theorem toDigits_bounds {n : Nat} (hn : n ≠ 0) :
    10 ^ ((Nat.toDigits 10 n).length - 1) ≤ n ∧ n < 10 ^ (Nat.toDigits 10 n).length := by
  have hpos : 0 < (Nat.toDigits 10 n).length := Nat.length_toDigits_pos
  refine ⟨?_, (Nat.length_toDigits_le_iff (by decide) hpos).mp le_rfl⟩
  by_contra hlt
  rcases Nat.eq_zero_or_pos ((Nat.toDigits 10 n).length - 1) with hone | hmore
  · rw [hone] at hlt
    omega
  · have hle := (Nat.length_toDigits_le_iff (by decide) hmore).mpr (not_le.mp hlt)
    omega

theorem two_pow_le_ten_pow {m k : Nat} (h : m ≤ 3 * k) : (2 : ℚ) ^ m ≤ 10 ^ k :=
  calc (2 : ℚ) ^ m ≤ 2 ^ (3 * k) := pow_le_pow_right₀ one_le_two h
    _ = 8 ^ k := by rw [pow_mul]; norm_num
    _ ≤ 10 ^ k := pow_le_pow_left₀ (by norm_num) (by norm_num) k

/-- A number of more than 400 digits is out of range. -/
theorem floatRange_le_of_digits {n : Nat} {exponent : Int} (hn : n ≠ 0)
    (h : 400 < ((Nat.toDigits 10 n).length : Int) + exponent) :
    (Argument.floatRange : ℚ) ≤ n * 10 ^ exponent := by
  have hpos : 0 < (Nat.toDigits 10 n).length := Nat.length_toDigits_pos
  have hlow : ((10 ^ ((Nat.toDigits 10 n).length - 1) : Nat) : ℚ) ≤ n := by
    exact_mod_cast (toDigits_bounds hn).1
  calc (Argument.floatRange : ℚ) = (2 ^ 53 - 1 / 2) * 2 ^ Binary64.maxExponent := floatRange_eq
    _ ≤ 2 ^ 53 * 2 ^ (971 : Nat) :=
        mul_le_mul (by norm_num) (zpow_natCast 2 971).le (zpow_pos two_pos _).le (by positivity)
    _ = 2 ^ (53 + 971) := (pow_add 2 53 971).symm
    _ ≤ 10 ^ 400 := two_pow_le_ten_pow (by decide)
    _ = 10 ^ (400 : Int) := (zpow_natCast 10 400).symm
    _ ≤ 10 ^ ((((Nat.toDigits 10 n).length - 1 : Nat) : Int) + exponent) :=
        zpow_le_zpow_right₀ (by norm_num) (by omega)
    _ = (10 ^ ((Nat.toDigits 10 n).length - 1) : Nat) * 10 ^ exponent := by
        rw [zpow_add₀ (by norm_num), zpow_natCast, Nat.cast_pow, Nat.cast_ofNat]
    _ ≤ n * 10 ^ exponent := mul_le_mul_of_nonneg_right hlow (zpow_pos (by norm_num) _).le

/-- A number that begins more than 400 places after the point is smaller than half of the least
one. -/
theorem lt_of_digits {n : Nat} {exponent : Int} (hn : n ≠ 0)
    (h : ((Nat.toDigits 10 n).length : Int) + exponent < -400) :
    (n * 10 ^ exponent : ℚ) < 2 ^ Binary64.minExponent / 2 := by
  have hhigh : (n : ℚ) < (10 ^ (Nat.toDigits 10 n).length : Nat) := by
    exact_mod_cast (toDigits_bounds hn).2
  calc (n * 10 ^ exponent : ℚ) < (10 ^ (Nat.toDigits 10 n).length : Nat) * 10 ^ exponent :=
        mul_lt_mul_of_pos_right hhigh (zpow_pos (by norm_num) _)
    _ = 10 ^ (((Nat.toDigits 10 n).length : Int) + exponent) := by
        rw [zpow_add₀ (by norm_num), zpow_natCast, Nat.cast_pow, Nat.cast_ofNat]
    _ ≤ 10 ^ (-400 : Int) := zpow_le_zpow_right₀ (by norm_num) h.le
    _ = ((10 : ℚ) ^ 400)⁻¹ := by rw [zpow_neg, zpow_ofNat]
    _ ≤ ((2 : ℚ) ^ 1075)⁻¹ := inv_anti₀ (by positivity) (two_pow_le_ten_pow (by decide))
    _ = (2 ^ (1074 : Nat))⁻¹ / 2 := by rw [pow_succ, mul_inv, div_eq_mul_inv]
    _ = 2 ^ Binary64.minExponent / 2 := by
        rw [← zpow_natCast, ← zpow_neg]
        rfl

/-- **A decimal is read as the nearest number.** -/
theorem nearest_rounds (negative : Bool) (n : Nat) (exponent : Int) :
    (Reading.nearest negative n exponent).Rounds negative (n * 10 ^ exponent) := by
  unfold Reading.nearest
  split
  · rename_i hn
    rw [hn, Nat.cast_zero, zero_mul]
    exact zero_rounds negative
  rename_i hn
  dsimp only
  split
  · rename_i hgreat
    exact ⟨rfl, floatRange_le_of_digits hn hgreat⟩
  split
  · rename_i hsmall
    have hlt := lt_of_digits hn hsmall
    have hone : (2 : ℚ) ^ Binary64.minExponent ≤ 1 := zpow_le_one_of_nonpos₀ one_le_two (by decide)
    have hrange := one_lt_floatRange
    refine ⟨rfl, by linarith, zero_rounds_of_lt ?_⟩
    rw [abs_signed, abs_of_nonneg (by positivity)]
    exact hlt
  cases exponent with
  | ofNat e =>
      have h := ofRatio_rounds negative (n * 10 ^ e) Nat.one_pos
      push_cast at h
      rwa [div_one] at h
  | negSucc e =>
      have hden : 0 < 10 ^ (e + 1) := by positivity
      have h := ofRatio_rounds negative n hden
      push_cast at h
      rwa [zpow_negSucc, ← div_eq_mul_inv]

end Switchboard
