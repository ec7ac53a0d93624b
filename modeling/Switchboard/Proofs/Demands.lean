import Switchboard.Proofs.Bounds
import Switchboard.Proofs.Numerals
import Switchboard.Proofs.Ruling

/-!
# Proofs — Demands

What a number argument demands, read off the calls that were made on it, and what it makes of a
token.  Of the bounds that are accepted the last one counts, and so does the last sign; wholeness is
demanded once and for all.  The demands are about the amount that a token denotes, and they are
looked at in a fixed order: a number that does not meet them is rejected for the first one that it
does not meet.

* `NumberRule.Meets`, `NumberRule.Fails`: what is demanded of an amount, and what is wrong first.
* `NumberRule.fault?_eq_none`, `NumberRule.fault?_eq_some`: a rule says so.
* `NumberRule.ofCalls`, `buildAll_number`: what calls demand, taken together.
* `Argument.validate_demanded`: what a number argument makes of a text, after any calls.
* `Argument.validate_integral`: the kinds of the values of a number argument that must be whole.
-/

namespace Switchboard

/-! ### Demands on an amount -/

namespace Sign

/-- The amount is of the sign. -/
def Holds : Sign → ℚ → Prop
  | .positive, q => 0 < q
  | .negative, q => q < 0

/-- What is wrong about a number that is not of the sign. -/
def reason : Sign → Number → Reason
  | .positive, n => .notPositive n
  | .negative, n => .notNegative n

/-- The comparison with zero that tells whether a number is of the sign. -/
def admits : Sign → Number → Bool
  | .positive, n => (Number.int 0).lt n
  | .negative, n => n.lt (.int 0)

theorem admits_iff {s : Sign} {n : Number} : s.admits n = true ↔ s.Holds n.amount := by
  cases s <;> simp [admits, Holds, Number.lt_iff, Number.amount]

end Sign

namespace NumberRule

/-- The amount is not below the minimum, if there is any. -/
def Least (r : NumberRule) (q : ℚ) : Prop := ∀ m ∈ r.minimum, m.amount ≤ q

/-- The amount is not above the maximum, if there is any. -/
def Greatest (r : NumberRule) (q : ℚ) : Prop := ∀ m ∈ r.maximum, q ≤ m.amount

/-- The amount is whole, if it must be. -/
def Whole (r : NumberRule) (q : ℚ) : Prop := r.integral = true → ∃ i : Int, q = i

/-- **What a rule demands of an amount.** -/
structure Meets (r : NumberRule) (q : ℚ) : Prop where
  least : r.Least q
  greatest : r.Greatest q
  whole : r.Whole q
  sign : ∀ s ∈ r.sign, s.Holds q

/-- **The first demand that a number does not meet**, in the order minimum, maximum, wholeness and
sign. -/
inductive Fails (r : NumberRule) (n : Number) : Reason → Prop where
  | below {m : Number} (hm : m ∈ r.minimum) (h : n.amount < m.amount) :
      Fails r n (.belowMinimum m n)
  | above {m : Number} (hleast : r.Least n.amount) (hm : m ∈ r.maximum)
      (h : m.amount < n.amount) : Fails r n (.aboveMaximum m n)
  | fractional (hleast : r.Least n.amount) (hgreatest : r.Greatest n.amount)
      (h : ¬r.Whole n.amount) : Fails r n (.notWhole n)
  | sign {s : Sign} (hleast : r.Least n.amount) (hgreatest : r.Greatest n.amount)
      (hwhole : r.Whole n.amount) (hs : s ∈ r.sign) (h : ¬s.Holds n.amount) :
      Fails r n (s.reason n)

/-- **What is wrong about a token**: it is no number, or it is one that does not meet a demand. -/
inductive Refuses (r : NumberRule) (token : List Char) : Reason → Prop where
  | unread (h : Number.read? token = none) : Refuses r token (.notNumber (String.ofList token))
  | fails {n : Number} {reason : Reason} (h : Number.read? token = some n)
      (hfails : r.Fails n reason) : Refuses r token reason

variable {r : NumberRule} {n : Number} {reason : Reason}

/-! ### The checks one by one -/

/-- The checks of a rule, one after the other. -/
theorem fault?_eq (r : NumberRule) (n : Number) :
    r.fault? n =
      (r.minimum.bind fun m => if n.lt m then some (.belowMinimum m n) else none).or
        ((r.maximum.bind fun m => if m.lt n then some (.aboveMaximum m n) else none).or
          ((if r.integral && n.toInt?.isNone then some (.notWhole n) else none).or
            (r.sign.bind fun s => if s.admits n then none else some (s.reason n)))) := by
  obtain ⟨minimum, maximum, integral, sign⟩ := r
  rcases sign with _ | _ | _ <;> rfl

theorem least_iff : (∀ m ∈ r.minimum, ¬n.lt m = true) ↔ r.Least n.amount :=
  forall₂_congr fun _ _ => (Bool.not_eq_true _).to_iff.trans Number.lt_eq_false

theorem greatest_iff : (∀ m ∈ r.maximum, ¬m.lt n = true) ↔ r.Greatest n.amount :=
  forall₂_congr fun _ _ => (Bool.not_eq_true _).to_iff.trans Number.lt_eq_false

theorem not_whole_iff : (r.integral && n.toInt?.isNone) = true ↔ ¬r.Whole n.amount := by
  rw [Bool.and_eq_true, Number.toInt?_isNone, Whole, Classical.not_imp, not_exists]

theorem whole_eq_some :
    (if r.integral && n.toInt?.isNone then some (Reason.notWhole n) else none) = some reason ↔
      ¬r.Whole n.amount ∧ .notWhole n = reason := by
  rw [Option.ite_none_right_eq_some, not_whole_iff, Option.some.injEq]

theorem whole_eq_none :
    (if r.integral && n.toInt?.isNone then some (Reason.notWhole n) else none) = none ↔
      r.Whole n.amount := by
  rw [ite_eq_right_iff, not_whole_iff]
  simp

theorem sign_eq_some :
    (r.sign.bind fun s => if s.admits n then none else some (s.reason n)) = some reason ↔
      ∃ s ∈ r.sign, ¬s.Holds n.amount ∧ s.reason n = reason := by
  cases r.sign <;> simp [← Sign.admits_iff]

theorem sign_eq_none :
    (r.sign.bind fun s => if s.admits n then none else some (s.reason n)) = none ↔
      ∀ s ∈ r.sign, s.Holds n.amount := by
  cases r.sign <;> simp [← Sign.admits_iff]

/-- **A rule finds no fault exactly with the numbers that meet its demands.** -/
theorem fault?_eq_none : r.fault? n = none ↔ r.Meets n.amount := by
  rw [fault?_eq, Option.or_eq_none_iff, Option.or_eq_none_iff, Option.or_eq_none_iff,
    Reason.demand_eq_none, Reason.demand_eq_none, whole_eq_none, sign_eq_none, least_iff,
    greatest_iff]
  exact ⟨fun ⟨hleast, hgreatest, hwhole, hsign⟩ => ⟨hleast, hgreatest, hwhole, hsign⟩,
    fun ⟨hleast, hgreatest, hwhole, hsign⟩ => ⟨hleast, hgreatest, hwhole, hsign⟩⟩

/-- **A rule finds the first fault of a number.** -/
theorem fault?_eq_some : r.fault? n = some reason ↔ r.Fails n reason := by
  rw [fault?_eq, Option.or_eq_some_iff, Option.or_eq_some_iff, Option.or_eq_some_iff,
    Reason.demand_eq_some, Reason.demand_eq_none, Reason.demand_eq_some, Reason.demand_eq_none,
    whole_eq_some, whole_eq_none, sign_eq_some, least_iff, greatest_iff]
  constructor
  · rintro (⟨m, hm, hlt, rfl⟩ | ⟨hleast, ⟨m, hm, hlt, rfl⟩ | ⟨hgreatest, hrest⟩⟩)
    · exact .below hm (Number.lt_iff.mp hlt)
    · exact .above hleast hm (Number.lt_iff.mp hlt)
    · rcases hrest with ⟨hwhole, rfl⟩ | ⟨hwhole, s, hs, hsign, rfl⟩
      · exact .fractional hleast hgreatest hwhole
      · exact .sign hleast hgreatest hwhole hs hsign
  · intro h
    cases h with
    | below hm h => exact .inl ⟨_, hm, Number.lt_iff.mpr h, rfl⟩
    | above hleast hm h => exact .inr ⟨hleast, .inl ⟨_, hm, Number.lt_iff.mpr h, rfl⟩⟩
    | fractional hleast hgreatest h =>
        exact .inr ⟨hleast, .inr ⟨hgreatest, .inl ⟨h, rfl⟩⟩⟩
    | sign hleast hgreatest hwhole hs h =>
        exact .inr ⟨hleast, .inr ⟨hgreatest, .inr ⟨hwhole, _, hs, h, rfl⟩⟩⟩

end NumberRule

/-! ### What calls demand -/

/-- The call that sets a bound. -/
def Bound.call : Bound → Value → Build
  | .min, v => .min v
  | .max, v => .max v

/-- The rule with a bound in the place of the one that it had, if any. -/
def NumberRule.bounded (r : NumberRule) (bound : Bound) (m : Number) : NumberRule :=
  match bound with
  | .min => { r with minimum := some m }
  | .max => { r with maximum := some m }

namespace Build

/-- The minimum that a call sets. -/
def minimum? : Build → Option Number
  | .min bound => (Argument.checkBound .number .min bound).toOption
  | _ => none

/-- The maximum that a call sets. -/
def maximum? : Build → Option Number
  | .max bound => (Argument.checkBound .number .max bound).toOption
  | _ => none

/-- Whether a call demands whole numbers. -/
def isInteger : Build → Bool
  | .integer => true
  | _ => false

/-- The sign that a call demands. -/
def sign? : Build → Option Sign
  | .positive => some .positive
  | .negative => some .negative
  | _ => none

/-- The last of what calls set. -/
def last {α : Type} (set : Build → Option α) (calls : List Build) : Option α :=
  (calls.filterMap set).getLast?

theorem last_concat {α : Type} (set : Build → Option α) (calls : List Build) (call : Build) :
    last set (calls ++ [call]) = (set call).or (last set calls) := by
  rw [last, List.filterMap_append, List.getLast?_append]
  cases hset : set call <;> simp [hset, last]

end Build

namespace NumberRule

/-- **What calls demand of a number**, taken together. -/
def ofCalls (calls : List Build) : NumberRule where
  minimum := Build.last Build.minimum? calls
  maximum := Build.last Build.maximum? calls
  integral := calls.any Build.isInteger
  sign := Build.last Build.sign? calls

/-- The rule after one more call. -/
def after (r : NumberRule) (call : Build) : NumberRule where
  minimum := call.minimum?.or r.minimum
  maximum := call.maximum?.or r.maximum
  integral := call.isInteger || r.integral
  sign := call.sign?.or r.sign

theorem ofCalls_concat (calls : List Build) (call : Build) :
    ofCalls (calls ++ [call]) = (ofCalls calls).after call := by
  simp [ofCalls, after, Build.last_concat, Bool.or_comm]

end NumberRule

namespace Argument

/-- The argument after calls, each accepted or refused. -/
def buildAll (a : Argument) (calls : List Build) : Argument :=
  calls.foldl (fun a call => (a.build call).argument) a

/-- **A bound that is accepted takes the place of the old one**, and one that is refused changes
nothing. -/
theorem build_bound (label : Label) (rule : NumberRule) (bound : Bound) (v : Value) :
    (Argument.number label rule).build (bound.call v) =
      match checkBound .number bound v with
      | .ok m => ⟨.number label (rule.bounded bound m), none⟩
      | .error e => ⟨.number label rule, some e⟩ := by
  cases bound with
  | min =>
      cases h : checkBound .number .min v <;>
        simp [build, Bound.call, numberChange?, h, Except.map, NumberRule.bounded]
  | max =>
      cases h : checkBound .number .max v <;>
        simp [build, Bound.call, numberChange?, h, Except.map, NumberRule.bounded]

/-- **A call on a number changes its rule as far as it sets anything.** -/
theorem build_number (label : Label) (rule : NumberRule) (call : Build) :
    ∃ label', ((Argument.number label rule).build call).argument =
      .number label' (rule.after call) := by
  cases call with
  | setName name display =>
      rcases (Argument.number label rule).setName_label name display with h | ⟨label', h⟩
      · exact ⟨label, h⟩
      · exact ⟨label', h⟩
  | min v =>
      refine ⟨label, (congrArg Built.argument (build_bound label rule .min v)).trans ?_⟩
      rw [NumberRule.after, Build.minimum?]
      cases checkBound .number .min v <;> rfl
  | max v =>
      refine ⟨label, (congrArg Built.argument (build_bound label rule .max v)).trans ?_⟩
      rw [NumberRule.after, Build.maximum?]
      cases checkBound .number .max v <;> rfl
  | optional fallback => exact ⟨_, rfl⟩
  | integer | positive | negative => exact ⟨label, rfl⟩
  | matching | whitelist | forceUpper | forceLower | add => exact ⟨label, rfl⟩

/-- **After any calls a number demands what they demand, taken together.** -/
theorem buildAll_number (label : Label) (calls : List Build) :
    ∃ label', (Argument.number label {}).buildAll calls =
      .number label' (NumberRule.ofCalls calls) := by
  induction calls using List.reverseRecOn with
  | nil => exact ⟨label, rfl⟩
  | append_singleton calls call ih =>
      obtain ⟨label₁, h₁⟩ := ih
      obtain ⟨label₂, h₂⟩ := build_number label₁ (.ofCalls calls) call
      refine ⟨label₂, ?_⟩
      rw [NumberRule.ofCalls_concat, ← h₂, ← h₁]
      exact List.foldl_concat ..

/-- What comes from a factory is an argument of its kind without demands, under some label. -/
theorem exists_of_make {kind name display : Value} {start : Argument}
    (hmake : make kind name display = .ok start) :
    ∃ label, start = (ofKind start.kind).withLabel label := by
  unfold make at hmake
  split at hmake
  · split at hmake
    · rename_i kind _
      rcases named_label hmake with rfl | ⟨label, rfl⟩
      · exact ⟨{}, by cases kind <;> rfl⟩
      · exact ⟨label, by cases kind <;> rfl⟩
    · cases hmake
  · cases hmake

/-- A number that comes from a factory has no demands. -/
theorem number_of_make {kind name display : Value} {start : Argument}
    (hmake : make kind name display = .ok start) (hnumber : start.kind = .number) :
    ∃ label, start = .number label {} := by
  obtain ⟨label, hstart⟩ := exists_of_make hmake
  rw [hnumber] at hstart
  exact ⟨label, hstart⟩

/-! ### What a number makes of a text -/

variable {kind name display : Value} {start : Argument}

section

variable (hmake : make kind name display = .ok start) (hnumber : start.kind = .number)
  {calls : List Build} {cs left : List Char} {value : Value} {refusal : Refusal}

include hmake hnumber

theorem demanded_accepts :
    (start.buildAll calls).validate cs = .ok (value, left) ↔
      ∃ n, Number.read? (Text.splitToken cs).1 = some n ∧
        (NumberRule.ofCalls calls).Meets n.amount ∧ value = n.toValue ∧
        left = (Text.splitToken cs).2 := by
  obtain ⟨label, rfl⟩ := number_of_make hmake hnumber
  obtain ⟨label, ha⟩ := buildAll_number label calls
  rw [ha, number_accepts]
  simp only [NumberRule.fault?_eq_none]

theorem demanded_refuses :
    (start.buildAll calls).validate cs = .error refusal ↔
      ∃ reason, (NumberRule.ofCalls calls).Refuses (Text.splitToken cs).1 reason ∧
        refusal = .rejected ⟨start.buildAll calls, reason⟩ := by
  obtain ⟨label, rfl⟩ := number_of_make hmake hnumber
  obtain ⟨label, ha⟩ := buildAll_number label calls
  rw [ha]
  cases refusal with
  | unusable => simp [(Concrete.number label _).usable cs]
  | rejected rejection =>
      rw [number_rejects]
      constructor
      · rintro (⟨hread, rfl⟩ | ⟨n, reason, hread, hfault, rfl⟩)
        · exact ⟨_, .unread hread, rfl⟩
        · exact ⟨_, .fails hread (NumberRule.fault?_eq_some.mp hfault), rfl⟩
      · rintro ⟨reason, hrefuses, h⟩
        cases h
        cases hrefuses with
        | unread hread => exact .inl ⟨hread, rfl⟩
        | fails hread hfails =>
            exact .inr ⟨_, _, hread, NumberRule.fault?_eq_some.mpr hfails, rfl⟩

end

/-- **What a number makes of a text, after any calls**: it accepts exactly if the first token is a
number whose amount meets what the calls demand, and gives that number and what follows the space
after the token.  Otherwise it is rejected for the first thing that is wrong about the token. -/
theorem validate_demanded (hmake : make kind name display = .ok start)
    (hnumber : start.kind = .number) (calls : List Build) (cs : List Char) :
    let a := start.buildAll calls
    let demands := NumberRule.ofCalls calls
    let token := (Text.splitToken cs).1
    (∀ value left, a.validate cs = .ok (value, left) ↔
        ∃ n, Number.read? token = some n ∧ demands.Meets n.amount ∧ value = n.toValue ∧
          left = (Text.splitToken cs).2) ∧
      ∀ refusal, a.validate cs = .error refusal ↔
        ∃ reason, demands.Refuses token reason ∧ refusal = .rejected ⟨a, reason⟩ :=
  ⟨fun _ _ => demanded_accepts hmake hnumber, fun _ => demanded_refuses hmake hnumber⟩

/-- Of three maxima the last one is refused and the second one counts, the power of two with the
exponent 53 as a binary64 number.  The whole number after it is above it, although it is none that
binary64 has. -/
theorem validate_demanded_rehearsed :
    let limit : Binary64 := ⟨false, 2 ^ 52, 1⟩
    let calls : List Build := [.max (.float (.finite (.zero false))), .negative,
      .max (.float (.finite limit)), .positive, .max (.text "none")]
    let a := (Argument.number {} {}).buildAll calls
    make (.text "Number") .unset .unset = .ok (.number {} {}) ∧
      a.validate "9007199254740992 of it".toList = .ok (.int 9007199254740992, "of it".toList) ∧
      a.validate "9007199254740993 of it".toList =
        .error (.rejected ⟨a, .aboveMaximum (.float limit) (.int 9007199254740993)⟩) := by
  intro limit calls a
  have hmake : make (.text "Number") .unset .unset = .ok (.number {} {}) := rfl
  have hcalls : NumberRule.ofCalls calls =
      { maximum := some (.float limit), sign := some .positive } := rfl
  have hlimit : (Number.float limit).amount = 9007199254740992 := by
    norm_num [limit, Number.amount, Binary64.amount, Binary64.magnitude, signed]
  have hread : Number.read? (Text.splitToken "9007199254740992 of it".toList).1 =
      some (.int 9007199254740992) := by decide +kernel
  have hread' : Number.read? (Text.splitToken "9007199254740993 of it".toList).1 =
      some (.int 9007199254740993) := by decide +kernel
  refine ⟨hmake, ?_, ?_⟩
  · refine ((validate_demanded hmake rfl calls _).1 _ _).mpr ⟨_, hread, ?_, rfl, rfl⟩
    rw [hcalls]
    exact {
      least := by rintro _ ⟨⟩
      greatest := by
        rintro _ ⟨⟩
        rw [hlimit]
        norm_num [Number.amount]
      whole := by rintro ⟨⟩
      sign := by
        rintro _ ⟨⟩
        norm_num [Sign.Holds, Number.amount] }
  · refine ((validate_demanded hmake rfl calls _).2 _).mpr ⟨_, ?_, rfl⟩
    rw [hcalls]
    refine .fails hread' (.above (by rintro _ ⟨⟩) rfl ?_)
    rw [hlimit]
    norm_num [Number.amount]

/-- **The kinds of the values of a number that must be whole**: every value denotes a whole number,
but it is one by its kind exactly if the token is a numeral of no more digits than may be read.
Any other spelling gives a binary64 number. -/
theorem validate_integral (hmake : make kind name display = .ok start)
    (hnumber : start.kind = .number) {calls : List Build} (hinteger : .integer ∈ calls)
    {cs left : List Char} {value : Value}
    (haccepts : (start.buildAll calls).validate cs = .ok (value, left)) :
    let token := (Text.splitToken cs).1
    (∃ n : Numeral, n.Spells token ∧ n.digits.length ≤ Reading.maxDigits ∧
        value = .int n.value) ∨
      (¬∃ n : Numeral, n.Spells token ∧ n.digits.length ≤ Reading.maxDigits) ∧
        ∃ (x : Binary64) (i : Int), x.amount = i ∧ value = .float (.finite x) := by
  intro token
  obtain ⟨m, hread, hmeets, rfl, -⟩ := (demanded_accepts hmake hnumber).mp haccepts
  cases m with
  | int i =>
      obtain ⟨n, hspells, hshort, rfl⟩ := Numeral.read?_eq_int.mp hread
      exact .inl ⟨n, hspells, hshort, rfl⟩
  | float x =>
      obtain ⟨i, hi⟩ := hmeets.whole (List.any_eq_true.mpr ⟨_, hinteger, rfl⟩)
      refine .inr ⟨?_, x, i, hi, rfl⟩
      rintro ⟨n, hspells, hshort⟩
      cases hread.symm.trans (hspells.read?_of_short hshort)

/-- Six is a whole number by its kind if it is written as a numeral. -/
theorem validate_integral_rehearsed :
    let calls : List Build := [.integer, .positive]
    let a := (Argument.number {} {}).buildAll calls
    make (.text "number") .unset .unset = .ok (.number {} {}) ∧
      a.validate "+06".toList = .ok (.int 6, []) ∧
      ∃ n : Numeral, n.Spells "+06".toList ∧ n.digits.length ≤ Reading.maxDigits ∧
        Value.int 6 = .int n.value := by
  intro calls a
  have hmake : make (.text "number") .unset .unset = .ok (.number {} {}) := rfl
  have haccepts : a.validate "+06".toList = .ok (.int 6, []) := rfl
  refine ⟨hmake, haccepts, ?_⟩
  rcases validate_integral hmake rfl (.head _) haccepts with h | ⟨-, x, i, -, h⟩
  · exact h
  · cases h

/-- With a point it is a binary64 number, although the argument must be whole. -/
theorem not_validate_integral_rehearsed :
    let a := ((Argument.number {} {}).build .integer).argument
    a.validate "6.0".toList = .ok (.float (.finite ⟨false, 6 * 2 ^ 50, -50⟩), []) ∧
      ¬∀ value left, a.validate "6.0".toList = .ok (value, left) → ∃ i, value = .int i := by
  intro a
  have hread : Number.read? (Text.splitToken "6.0".toList).1 =
      some (.float ⟨false, 6 * 2 ^ 50, -50⟩) := by decide +kernel
  have hfault : ({ integral := true } : NumberRule).fault?
      (.float ⟨false, 6 * 2 ^ 50, -50⟩) = none := by decide +kernel
  have haccepts : a.validate "6.0".toList =
      .ok (.float (.finite ⟨false, 6 * 2 ^ 50, -50⟩), []) :=
    number_accepts.mpr ⟨_, hread, hfault, rfl, rfl⟩
  refine ⟨haccepts, fun hint => ?_⟩
  obtain ⟨i, hi⟩ := hint _ _ haccepts
  cases hi

end Argument

end Switchboard
