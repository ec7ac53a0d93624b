import Switchboard.Proofs.Demands

/-!
# Proofs — Limits

Whole numbers as bounds.  A token may denote a whole number of any size, but a whole number is
accepted as a bound only within the range of binary64 numbers: what rounds to none of them is
refused, as a bound of numbers and as a bound of lengths.  A bound that is accepted is compared with
what a token is read as, which is the number that it denotes if it has no more digits than may be
read, and the nearest binary64 number otherwise.

* `checkBound_int`, `checkLength_int`: the whole numbers that are accepted as bounds.
* `rejectsFor_bounded`: what a bound rejects.
* `build_bounded`: for every whole number, whether it is accepted as a bound and what it rejects
  then.
-/

namespace Switchboard

namespace Bound

/-- What is wrong about a number that is beyond the bound. -/
def reason : Bound → Number → Number → Reason
  | .min => .belowMinimum
  | .max => .aboveMaximum

/-- The second amount is beyond the first one, which is a bound. -/
def Violates : Bound → ℚ → ℚ → Prop
  | .min, b, q => q < b
  | .max, b, q => b < q

/-- The amount meets what is looked at before the bound. -/
def Reached : Bound → NumberRule → ℚ → Prop
  | .min, _, _ => True
  | .max, r, q => r.Least q

end Bound

/-- The rule with a bound in the place of the one that it had, if any. -/
def TextRule.bounded (r : TextRule) (bound : Bound) (m : Nat) : TextRule :=
  match bound with
  | .min => { r with minimum := some m }
  | .max => { r with maximum := some m }

/-- A number that does not meet a bound fails it, if it meets what is looked at before, and no other
number does. -/
theorem NumberRule.fails_bounded {r : NumberRule} {bound : Bound} {m n n' : Number} :
    (r.bounded bound m).Fails n (bound.reason m n') ↔
      n' = n ∧ bound.Violates m.amount n.amount ∧ bound.Reached r n.amount := by
  constructor
  · intro h
    generalize hreason : bound.reason m n' = reason at h
    cases bound with
    | min =>
        cases h with
        | below hm h =>
            cases hm
            cases hreason
            exact ⟨rfl, h, trivial⟩
        | @sign s => cases s <;> cases hreason
        | _ => cases hreason
    | max =>
        cases h with
        | above hleast hm h =>
            cases hm
            cases hreason
            exact ⟨rfl, h, hleast⟩
        | @sign s => cases s <;> cases hreason
        | _ => cases hreason
  · rintro ⟨rfl, hviolates, hreached⟩
    cases bound with
    | min => exact .below rfl hviolates
    | max => exact .above hreached rfl hviolates

namespace Argument

/-! ### Whole numbers as bounds -/

theorem checkBound_int (kind : ArgumentKind) (bound : Bound) (b : Int) :
    checkBound kind bound (.int b) =
      if b.natAbs < floatRange then .ok (.int b) else .error .boundTooLarge := by
  have hwhole : checkBound kind bound (.int b) = (checkRange b).map .int := rfl
  rw [hwhole, checkRange]
  by_cases hb : b.natAbs < floatRange <;> simp only [hb, if_true, if_false, Except.map]

theorem checkLength_int (kind : ArgumentKind) (bound : Bound) {b : Int} (hb : 0 ≤ b) :
    checkLength kind bound (.int b) =
      if b.natAbs < floatRange then .ok b.toNat else .error .boundTooLarge := by
  have hwhole : checkLength kind bound (.int b) =
      if b < 0 then .error (.boundNotLength kind bound) else (checkRange b).map Int.toNat := rfl
  rw [hwhole, if_neg hb.not_gt, checkRange]
  by_cases hlt : b.natAbs < floatRange <;> simp only [hlt, if_true, if_false, Except.map]

theorem build_number_int (label : Label) (rule : NumberRule) (bound : Bound) (b : Int) :
    (Argument.number label rule).build (bound.call (.int b)) =
      if b.natAbs < floatRange then ⟨.number label (rule.bounded bound (.int b)), none⟩
      else ⟨.number label rule, some .boundTooLarge⟩ := by
  rw [build_bound, checkBound_int]
  by_cases hlt : b.natAbs < floatRange <;> simp only [hlt, if_true, if_false]

theorem build_string_int (label : Label) (rule : TextRule) (bound : Bound) {b : Int} (hb : 0 ≤ b) :
    (Argument.string label rule).build (bound.call (.int b)) =
      if b.natAbs < floatRange then ⟨.string label (rule.bounded bound b.toNat), none⟩
      else ⟨.string label rule, some .boundTooLarge⟩ := by
  have hlength := fun kind bound => checkLength_int kind bound hb
  cases bound <;> by_cases hlt : b.natAbs < floatRange <;>
    simp only [build, Bound.call, textChange?, hlength, hlt, if_true, if_false, Except.map,
      TextRule.bounded]

/-! ### What a bound rejects -/

/-- The argument itself rejects the text, for a reason about some number. -/
def RejectsFor (a : Argument) (cs : List Char) (reason : Number → Reason) : Prop :=
  ∃ m, a.validate cs = .error (.rejected ⟨a, reason m⟩)

/-- **A bound rejects the numbers beyond it**, of those that meet what is looked at before. -/
theorem rejectsFor_bounded {label : Label} {rule : NumberRule} {bound : Bound} {m n : Number}
    {cs : List Char} (hread : Number.read? (Text.splitToken cs).1 = some n) :
    (Argument.number label (rule.bounded bound m)).RejectsFor cs (bound.reason m) ↔
      bound.Violates m.amount n.amount ∧ bound.Reached rule n.amount := by
  constructor
  · rintro ⟨n', h⟩
    rcases number_rejects.mp h with ⟨hunread, -⟩ | ⟨n₁, reason, hread₁, hfault, hreason⟩
    · cases hread.symm.trans hunread
    · cases hread.symm.trans hread₁
      obtain rfl : bound.reason m n' = reason := congrArg Rejection.reason hreason
      exact (NumberRule.fails_bounded.mp (NumberRule.fault?_eq_some.mp hfault)).2
  · intro h
    have hfails := NumberRule.fails_bounded.mpr ⟨rfl, h⟩
    exact ⟨n, number_rejects.mpr
      (.inr ⟨n, _, hread, NumberRule.fault?_eq_some.mpr hfails, rfl⟩)⟩

/-- **Whole numbers as bounds.**  As a bound of numbers a whole number is accepted exactly within
the range of binary64 numbers, and changes nothing otherwise.  Once it is accepted, a numeral of no
more digits than may be read is rejected by the bound exactly if it denotes a number beyond it, and
a longer one exactly if the nearest binary64 number is beyond it.  As a bound of lengths a whole
number that is not negative is accepted within the same range, and changes nothing otherwise. -/
theorem build_bounded (bound : Bound) (b : Int) :
    (∀ (label : Label) (rule : NumberRule),
      let built := (Argument.number label rule).build (bound.call (.int b))
      (built.error = none ↔ b.natAbs < floatRange) ∧
      (floatRange ≤ b.natAbs → built = ⟨.number label rule, some .boundTooLarge⟩) ∧
      (b.natAbs < floatRange →
        ∀ (n : Numeral) (cs : List Char), n.Spells (Text.splitToken cs).1 →
        (n.digits.length ≤ Reading.maxDigits →
          (built.argument.RejectsFor cs (bound.reason (.int b)) ↔
            bound.Violates b n.value ∧ bound.Reached rule n.value)) ∧
        (Reading.maxDigits < n.digits.length → n.magnitude < floatRange →
          ∃ x : Binary64, x.Rounds n.value ∧
            (built.argument.RejectsFor cs (bound.reason (.int b)) ↔
              bound.Violates b x.amount ∧ bound.Reached rule x.amount)))) ∧
    (0 ≤ b → ∀ (label : Label) (rule : TextRule),
      let built := (Argument.string label rule).build (bound.call (.int b))
      (built.error = none ↔ b.natAbs < floatRange) ∧
      (floatRange ≤ b.natAbs → built = ⟨.string label rule, some .boundTooLarge⟩)) := by
  refine ⟨fun label rule => ?_, fun hb label rule => ?_⟩
  · rw [build_number_int]
    by_cases hlt : b.natAbs < floatRange
    · rw [if_pos hlt]
      refine ⟨iff_of_true rfl hlt, fun hge => absurd hlt hge.not_gt, fun _ n cs hspells => ?_⟩
      refine ⟨fun hshort => ?_, fun hlong hrange => ?_⟩
      · exact rejectsFor_bounded (hspells.read?_of_short hshort)
      · obtain ⟨x, hrounds, hread⟩ := (hspells.read?_of_long hlong).1 hrange
        exact ⟨x, hrounds, rejectsFor_bounded hread⟩
    · rw [if_neg hlt]
      exact ⟨iff_of_false nofun hlt, fun _ => rfl, fun h => absurd h hlt⟩
  · rw [build_string_int label rule bound hb]
    by_cases hlt : b.natAbs < floatRange
    · rw [if_pos hlt]
      exact ⟨iff_of_true rfl hlt, fun hge => absurd hlt hge.not_gt⟩
    · rw [if_neg hlt]
      exact ⟨iff_of_false nofun hlt, fun _ => rfl⟩

/-- The power of ten with the exponent 308 is accepted as a minimum, and seven is below it. -/
theorem build_bounded_rehearsed :
    let b : Int := 10 ^ 308
    let built := (Argument.number {} {}).build (.min (.int b))
    b.natAbs < floatRange ∧ built.error = none ∧
      built.argument.RejectsFor "7 of them".toList (.belowMinimum (.int b)) ∧
      ((Argument.string {} {}).build (.max (.int b))).error = none := by
  intro b built
  have hb : b.natAbs < floatRange := by decide +kernel
  obtain ⟨haccepted, -, hrejects⟩ := (build_bounded .min b).1 {} {}
  let seven : Numeral := ⟨none, ['7'], by simp, by simp⟩
  have hseven : seven.Spells (Text.splitToken "7 of them".toList).1 := seven.spells_text
  have hbelow : ((seven.value : Int) : ℚ) < (b : Int) := Int.cast_lt.mpr (by decide +kernel)
  refine ⟨hb, haccepted.mpr hb, ?_, ?_⟩
  · exact ((hrejects hb seven _ hseven).1 (by decide)).mpr ⟨hbelow, trivial⟩
  · exact ((build_bounded .max b).2 (by decide) {} {}).1.mpr hb

/-- The next power of ten is refused, as a minimum of numbers and as a maximum of lengths. -/
theorem not_build_bounded_rehearsed :
    let b : Int := 10 ^ 309
    (Argument.number {} {}).build (.min (.int b)) = ⟨.number {} {}, some .boundTooLarge⟩ ∧
      (Argument.string {} {}).build (.max (.int b)) = ⟨.string {} {}, some .boundTooLarge⟩ ∧
      ¬∀ b : Int, ((Argument.number {} {}).build (.min (.int b))).error = none := by
  intro b
  have hb : ¬b.natAbs < floatRange := by decide +kernel
  have hnumber := build_number_int {} {} .min b
  have hstring := build_string_int {} {} .max (b := b) (by decide)
  rw [if_neg hb] at hnumber hstring
  refine ⟨hnumber, hstring, fun hall => ?_⟩
  cases (congrArg Built.error hnumber).symm.trans (hall b)

end Argument

end Switchboard
