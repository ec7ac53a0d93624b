import Mathlib.Data.Nat.Digits.Defs
import Switchboard.Number.Basic

/-!
# Proofs — Magnitude

How great the numbers are that a token or a bound can denote.  A ratio is rounded at an exponent
where it is below 2⁵³, so what rounding gives is a number that binary64 has.  A whole number is read
from a row of digits, which must not be too long.  Both are below 10⁴³⁰⁰, so no number that is read
has more digits than may be read.

* `Binary64.Valid`: the numbers that binary64 has.
* `Fits`, `fits_exponentOf`: the exponent that a ratio is rounded at.
* `ofRatio_valid`, `nearest_valid`: what is rounded is a number that binary64 has.
* `Number.Valid`, `valid_of_read?`: a number that is read from a token.
* `Number.Valid.length_toDigits`: how many digits a whole number has that is read.
-/

namespace Switchboard

/-! ### Rounding -/

/-- The number is one that binary64 has. -/
structure Binary64.Valid (x : Binary64) : Prop where
  below : x.significand < Binary64.significandBound
  least : Binary64.minExponent ≤ x.exponent
  greatest : x.exponent ≤ Binary64.maxExponent

theorem Binary64.zero_valid (negative : Bool) : (Binary64.zero negative).Valid where
  below := by
    show 0 < significandBound
    decide
  least := le_refl minExponent
  greatest := by
    show minExponent ≤ maxExponent
    decide

/-- The exponent that the logarithms of a ratio give. -/
def guess (num den : Nat) : Int := (Nat.log2 num : Int) - (Nat.log2 den : Int) - 52

theorem exponentOf_eq (num den : Nat) : Binary64.exponentOf num den =
    max (if (scaleRatio num den (guess num den)).1 / (scaleRatio num den (guess num den)).2 < 2 ^ 52
      then guess num den - 1 else guess num den) Binary64.minExponent :=
  rfl

/-- The ratio, divided by a power of two, is below a power of two. -/
def Fits (num den : Nat) (exponent : Int) (bits : Nat) : Prop :=
  (scaleRatio num den exponent).1 < 2 ^ bits * (scaleRatio num den exponent).2

section

variable {num den bits : Nat} {exponent : Int}

/-- Both sides of the comparison by whole powers of two. -/
theorem fits_iff {s p : Nat} (h : s + exponent = p) :
    Fits num den exponent bits ↔ num * 2 ^ s < 2 ^ bits * (den * 2 ^ p) := by
  unfold Fits
  cases exponent with
  | ofNat e =>
      obtain rfl : p = e + s := by
        have hp : (s : Int) + (e : Int) = p := h
        omega
      have hright : 2 ^ bits * (den * 2 ^ (e + s)) = 2 ^ bits * (den * 2 ^ e) * 2 ^ s := by ring
      show num < 2 ^ bits * (den * 2 ^ e) ↔ num * 2 ^ s < 2 ^ bits * (den * 2 ^ (e + s))
      rw [hright, Nat.mul_lt_mul_right (Nat.two_pow_pos s)]
  | negSucc e =>
      obtain rfl : s = (e + 1) + p := by omega
      show num * 2 ^ (e + 1) < 2 ^ bits * den ↔
        num * 2 ^ (e + 1 + p) < 2 ^ bits * (den * 2 ^ p)
      rw [Nat.pow_add 2 (e + 1), ← Nat.mul_assoc num, ← Nat.mul_assoc (2 ^ bits),
        Nat.mul_lt_mul_right (Nat.two_pow_pos p)]

/-- At a greater exponent the ratio is smaller. -/
theorem Fits.mono {exponent' : Int} (h : Fits num den exponent bits) (hle : exponent ≤ exponent') :
    Fits num den exponent' bits := by
  have hp : (exponent.natAbs : Int) + exponent = ((exponent.natAbs : Int) + exponent).toNat := by
    omega
  have hp' : (exponent.natAbs : Int) + exponent' = ((exponent.natAbs : Int) + exponent').toNat := by
    omega
  rw [fits_iff hp] at h
  rw [fits_iff hp']
  refine h.trans_le (Nat.mul_le_mul_left _ (Nat.mul_le_mul_left _ ?_))
  exact Nat.pow_le_pow_right Nat.two_pos (by omega)

/-- At the exponent before, the ratio needs one more bit. -/
theorem Fits.pred (h : Fits num den exponent bits) : Fits num den (exponent - 1) (bits + 1) := by
  have hp : ((exponent.natAbs + 1 : Nat) : Int) + exponent =
      (((exponent.natAbs : Int) + exponent).toNat + 1 : Nat) := by
    omega
  have hp' : ((exponent.natAbs + 1 : Nat) : Int) + (exponent - 1) =
      ((exponent.natAbs : Int) + exponent).toNat := by
    omega
  rw [fits_iff hp] at h
  rw [fits_iff hp']
  refine h.trans_eq ?_
  ring

variable (hden : 0 < den)

include hden

/-- The ratio fits at the exponent that its logarithms give. -/
theorem fits_guess (num : Nat) : Fits num den (guess num den) 53 := by
  have hp : ((Nat.log2 den + 52 : Nat) : Int) + guess num den = Nat.log2 num := by
    unfold guess
    omega
  rw [fits_iff hp]
  calc num * 2 ^ (Nat.log2 den + 52)
      < 2 ^ (Nat.log2 num + 1) * 2 ^ (Nat.log2 den + 52) :=
        Nat.mul_lt_mul_of_pos_right Nat.lt_log2_self (Nat.two_pow_pos _)
    _ = 2 ^ 53 * (2 ^ Nat.log2 den * 2 ^ Nat.log2 num) := by ring
    _ ≤ 2 ^ 53 * (den * 2 ^ Nat.log2 num) :=
        Nat.mul_le_mul_left _ (Nat.mul_le_mul_right _ (Nat.log2_self_le hden.ne'))

theorem scaleRatio_pos (num : Nat) (exponent : Int) : 0 < (scaleRatio num den exponent).2 := by
  cases exponent with
  | ofNat e => exact Nat.mul_pos hden (Nat.two_pow_pos e)
  | negSucc e => exact hden

/-- **A ratio is below 2⁵³ at the exponent that it is rounded at.** -/
theorem fits_exponentOf (num : Nat) : Fits num den (Binary64.exponentOf num den) 53 := by
  rw [exponentOf_eq]
  refine Fits.mono ?_ (le_max_left _ _)
  split
  · rename_i hlt
    have hfits : Fits num den (guess num den) 52 :=
      (Nat.div_lt_iff_lt_mul (scaleRatio_pos hden num _)).mp hlt
    exact hfits.pred
  · exact fits_guess hden num

end

theorem roundHalfEven_le (num den : Nat) : roundHalfEven num den ≤ num / den + 1 := by
  unfold roundHalfEven
  dsimp only
  split
  · exact Nat.le_succ _
  · split
    · exact Nat.le_refl _
    · exact Nat.add_le_add_left (Nat.le_of_lt_succ (Nat.mod_lt _ Nat.two_pos)) _

/-- **What a ratio is rounded to is a number that binary64 has.** -/
theorem ofRatio_valid {negative : Bool} {num den : Nat} {x : Binary64} (hden : 0 < den)
    (h : Float64.ofRatio negative num den = .finite x) : x.Valid := by
  unfold Float64.ofRatio at h
  split at h
  · cases h
    exact Binary64.zero_valid negative
  · have hfits := fits_exponentOf hden num
    have hleast : Binary64.minExponent ≤ Binary64.exponentOf num den := le_max_right _ _
    have hround : roundHalfEven (scaleRatio num den (Binary64.exponentOf num den)).1
        (scaleRatio num den (Binary64.exponentOf num den)).2 ≤ Binary64.significandBound :=
      (roundHalfEven_le _ _).trans
        (Nat.succ_le_of_lt ((Nat.div_lt_iff_lt_mul (scaleRatio_pos hden num _)).mpr hfits))
    dsimp only at h
    generalize roundHalfEven (scaleRatio num den (Binary64.exponentOf num den)).1
      (scaleRatio num den (Binary64.exponentOf num den)).2 = rounded at h hround
    generalize Binary64.exponentOf num den = exponent at h hleast
    -- Rounding up to 2⁵³ takes the next exponent.
    by_cases hcarry : rounded = Binary64.significandBound
    · rw [if_pos hcarry] at h
      dsimp only at h
      split at h
      · cases h
      · rename_i hgreatest
        cases h
        refine ⟨?_, hleast.trans (Int.le_add_one (le_refl exponent)), not_lt.mp hgreatest⟩
        show rounded / 2 < Binary64.significandBound
        rw [hcarry]
        decide
    · rw [if_neg hcarry] at h
      dsimp only at h
      split at h
      · cases h
      · rename_i hgreatest
        cases h
        exact ⟨lt_of_le_of_ne hround hcarry, hleast, not_lt.mp hgreatest⟩

/-- **So is what a decimal is read as.** -/
theorem nearest_valid {negative : Bool} {n : Nat} {exponent : Int} {x : Binary64}
    (h : Reading.nearest negative n exponent = .finite x) : x.Valid := by
  unfold Reading.nearest at h
  split at h
  · cases h
    exact Binary64.zero_valid negative
  · dsimp only at h
    split at h
    · cases h
    · split at h
      · cases h
        exact Binary64.zero_valid negative
      · split at h
        · exact ofRatio_valid Nat.one_pos h
        · exact ofRatio_valid (Nat.pow_pos (Nat.succ_pos 9)) h

/-! ### Reading -/

/-- The number is one that can be read: a whole number with no more digits than may be read, or one
that binary64 has. -/
def Number.Valid : Number → Prop
  | .int i => i.natAbs < 10 ^ Reading.maxDigits
  | .float x => x.Valid

theorem asciiNumber_lt {cs : List Char} (h : ∀ c ∈ cs, c.isDigit = true) :
    Text.asciiNumber cs < 10 ^ cs.length := by
  -- The number that is read so far is the number before the digits that follow.
  have hfold : ∀ (cs : List Char) (n : Nat), (∀ c ∈ cs, c.isDigit = true) →
      cs.foldl (fun acc c => acc * 10 + (c.toNat - 48)) n < (n + 1) * 10 ^ cs.length := by
    intro cs
    induction cs with
    | nil => exact fun n _ => by simp
    | cons c cs ih =>
        intro n h
        have hdigit : c.toNat - 48 ≤ 9 := by
          have hc := h c (.head _)
          simp only [Char.isDigit, Bool.and_eq_true, decide_eq_true_eq] at hc
          have hc' : c.toNat ≤ 57 := hc.2
          omega
        calc cs.foldl (fun acc c => acc * 10 + (c.toNat - 48)) (n * 10 + (c.toNat - 48))
            < (n * 10 + (c.toNat - 48) + 1) * 10 ^ cs.length :=
              ih _ fun d hd => h d (.tail _ hd)
          _ ≤ (n + 1) * 10 * 10 ^ cs.length := Nat.mul_le_mul_right _ (by omega)
          _ = (n + 1) * 10 ^ (cs.length + 1) := by ring
  have hcs := hfold cs 0 h
  rw [Nat.zero_add, Nat.one_mul] at hcs
  exact hcs

/-- A row of digits denotes a number with no more digits. -/
theorem asciiNumber_lt_of_le {cs : List Char} {m : Nat} (h : ∀ c ∈ cs, c.isDigit = true)
    (hm : cs.length ≤ m) : Text.asciiNumber cs < 10 ^ m :=
  (asciiNumber_lt h).trans_le (Nat.pow_le_pow_right (Nat.succ_pos 9) hm)

theorem natAbs_lt_of_int? {cs : List Char} {i : Int} (h : Reading.int? cs = some i) :
    i.natAbs < 10 ^ Reading.maxDigits := by
  unfold Reading.int? at h
  generalize Reading.splitSign (Text.trimWhile Text.isAsciiBlank cs) = read at h
  obtain ⟨negative, digits⟩ := read
  dsimp only at h
  split at h
  · rename_i hdigits
    simp only [Reading.isDigits, Bool.and_eq_true, List.all_eq_true, decide_eq_true_eq] at hdigits
    have habs : i.natAbs = Text.asciiNumber digits := by
      cases h
      cases negative <;> simp
    rw [habs]
    exact asciiNumber_lt_of_le hdigits.1.2 hdigits.2
  · cases h

theorem valid_of_decimal? {cs : List Char} {x : Binary64}
    (h : Reading.decimal? cs = some (.finite x)) : x.Valid := by
  obtain ⟨⟨whole, fraction, exponent⟩, -, h⟩ := Option.bind_eq_some_iff.mp h
  exact nearest_valid (Option.some.inj h)

/-- **A number that is read from a token is one that can be read.** -/
theorem Number.valid_of_read? {token : List Char} {n : Number} (h : Number.read? token = some n) :
    n.Valid := by
  unfold Number.read? at h
  split at h
  · split at h
    · rename_i hint
      cases h
      exact natAbs_lt_of_int? hint
    · split at h
      · rename_i hdecimal
        cases h
        exact valid_of_decimal? hdecimal
      · cases h
  · cases h

/-! ### Whole numbers -/

/-- Whole numbers that binary64 has are below this power of two. -/
def Binary64.bits : Nat := 1024

theorem Binary64.two_pow_bits_le : 2 ^ Binary64.bits ≤ 10 ^ Reading.maxDigits :=
  calc 2 ^ Binary64.bits ≤ 10 ^ Binary64.bits := Nat.pow_le_pow_left (by decide) _
    _ ≤ 10 ^ Reading.maxDigits := Nat.pow_le_pow_right (by decide) (by decide)

theorem Binary64.Valid.natAbs_lt {x : Binary64} {i : Int} (h : x.Valid) (hi : x.toInt? = some i) :
    i.natAbs < 2 ^ Binary64.bits := by
  have hbelow : x.significand < 2 ^ 53 := h.below
  have hsigned : ∀ n : Nat, (if x.negative then -(n : Int) else n).natAbs = n := by
    intro n
    cases x.negative <;> simp
  have hratio : x.ratio.1.natAbs < 2 ^ Binary64.bits := by
    unfold Binary64.ratio
    cases hexponent : x.exponent with
    | ofNat e =>
        have he : 53 + e ≤ Binary64.bits := by
          have hgreatest : x.exponent ≤ 971 := h.greatest
          rw [hexponent] at hgreatest
          exact Nat.add_le_add_left (Int.ofNat_le.mp hgreatest) 53
        have habs : x.significand * 2 ^ e < 2 ^ Binary64.bits :=
          calc x.significand * 2 ^ e < 2 ^ 53 * 2 ^ e :=
                Nat.mul_lt_mul_of_pos_right hbelow (Nat.two_pow_pos e)
            _ = 2 ^ (53 + e) := (Nat.pow_add 2 53 e).symm
            _ ≤ 2 ^ Binary64.bits := Nat.pow_le_pow_right Nat.two_pos he
        exact (hsigned _).trans_lt habs
    | negSucc e =>
        have habs : x.significand < 2 ^ Binary64.bits :=
          hbelow.trans_le (Nat.pow_le_pow_right Nat.two_pos (by decide))
        exact (hsigned _).trans_lt habs
  unfold Binary64.toInt? at hi
  dsimp only at hi
  split at hi
  · cases hi
    exact (Int.natAbs_ediv_le_natAbs _ _).trans_lt hratio
  · cases hi

/-- **A whole number that can be read has no more digits than may be read.** -/
theorem Number.Valid.length_toDigits {n : Number} {i : Int} (h : n.Valid)
    (hi : n.toInt? = some i) : (Nat.toDigits 10 i.natAbs).length ≤ Reading.maxDigits := by
  refine Nat.toDigits_length 10 _ _ (by decide) ?_
  cases n with
  | int i' =>
      cases hi
      exact h
  | float x => exact (Binary64.Valid.natAbs_lt h hi).trans_le Binary64.two_pow_bits_le

end Switchboard
