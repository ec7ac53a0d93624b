import Mathlib.Data.Nat.Digits.Lemmas
import Switchboard.Proofs.Cutting
import Switchboard.Proofs.Primitives
import Switchboard.Proofs.Rounding

/-!
# Proofs — Numerals

Whole numbers as they are written, and what they are read as.  A numeral of no more digits than may
be read is the whole number that it denotes, of any size.  A longer one is read as a decimal: as the
nearest binary64 number, if there is one, although it may be a short number behind zeros.

* `Numeral`, `Numeral.value`: a whole number as it is written, and what it denotes.
* `Numeral.int?_eq_some`, `read?_eq_int`: the tokens that are read as whole numbers.
* `Numeral.Spells.read?_of_long`: what a longer numeral is read as.
* `Numeral.validate_numeral`: what a number without demands makes of a numeral.
-/

namespace Switchboard

open Text

/-- **A whole number as it is written**: a row of decimal digits with a sign before it, or none. -/
structure Numeral where
  sign : Option Sign
  digits : List Char
  nonempty : digits ≠ []
  decimal : ∀ c ∈ digits, c.isDigit = true

namespace Numeral

/-- A sign as it is written. -/
def signText : Option Sign → List Char
  | none => []
  | some .positive => ['+']
  | some .negative => ['-']

/-- A numeral as it is written. -/
def text (n : Numeral) : List Char := signText n.sign ++ n.digits

/-- Whether the sign is a minus. -/
def isNegative (n : Numeral) : Bool := n.sign == some .negative

/-- The number that the digits denote, of which the last one stands for the ones. -/
def magnitude (n : Numeral) : Nat :=
  Nat.ofDigits 10 (n.digits.reverse.map fun c => c.toNat - '0'.toNat)

/-- **The whole number that a numeral denotes.** -/
def value (n : Numeral) : Int := if n.isNegative then -n.magnitude else n.magnitude

/-- The token is the numeral, with white space of ASCII around it at most. -/
def Spells (n : Numeral) (token : List Char) : Prop :=
  ∃ front back, token = front ++ n.text ++ back ∧
    (∀ c ∈ front, isAsciiBlank c = true) ∧ ∀ c ∈ back, isAsciiBlank c = true

/-- A numeral by itself. -/
theorem spells_text (n : Numeral) : n.Spells n.text :=
  ⟨[], [], by simp, nofun, nofun⟩

/-! ### Reading the digits -/

theorem asciiNumber_eq (cs : List Char) :
    asciiNumber cs = Nat.ofDigits 10 (cs.reverse.map fun c => c.toNat - '0'.toNat) := by
  induction cs using List.reverseRecOn with
  | nil => rfl
  | append_singleton cs c ih =>
      have hlast : asciiNumber (cs ++ [c]) = asciiNumber cs * 10 + (c.toNat - '0'.toNat) :=
        List.foldl_concat ..
      rw [hlast, ih, List.reverse_concat, List.map_cons, Nat.ofDigits_cons]
      ring

/-- The characters of a numeral are signs and digits. -/
theorem mem_text {n : Numeral} {c : Char} (h : c ∈ n.text) :
    c = '+' ∨ c = '-' ∨ c.isDigit = true := by
  rcases List.mem_append.mp h with hsign | hdigit
  · cases hs : n.sign with
    | none => simp [hs, signText] at hsign
    | some s => cases s <;> simp_all [signText]
  · exact .inr (.inr (n.decimal c hdigit))

/-- A digit is a character between the first and the last one. -/
theorem digit_range {c : Char} (h : c.isDigit = true) : 48 ≤ c.toNat ∧ c.toNat ≤ 57 := by
  simp only [Char.isDigit, Bool.and_eq_true, decide_eq_true_eq] at h
  exact h

theorem not_isAsciiBlank {n : Numeral} {c : Char} (h : c ∈ n.text) : isAsciiBlank c = false := by
  rcases mem_text h with rfl | rfl | hdigit
  · rfl
  · rfl
  · have := digit_range hdigit
    simp only [isAsciiBlank, Bool.or_eq_false_iff, beq_eq_false_iff_ne, Bool.and_eq_false_iff,
      decide_eq_false_iff_not]
    omega

theorem trimmed_text (n : Numeral) : Trimmed isAsciiBlank n.text where
  head _ hc := not_isAsciiBlank (List.mem_of_mem_head? hc)
  last _ hc := not_isAsciiBlank (List.mem_of_mem_getLast? hc)

variable {n : Numeral} {token : List Char}

/-- What is read is the numeral without the white space. -/
theorem Spells.trimWhile (h : n.Spells token) : trimWhile isAsciiBlank token = n.text := by
  obtain ⟨front, back, rfl, hfront, hback⟩ := h
  exact trimWhile_append hfront hback n.trimmed_text

theorem splitSign_text (n : Numeral) :
    Reading.splitSign n.text = (n.isNegative, n.digits) := by
  obtain ⟨sign, digits, nonempty, decimal⟩ := n
  cases sign with
  | some s => cases s <;> rfl
  | none =>
      obtain ⟨c, digits, rfl⟩ := List.exists_cons_of_ne_nil nonempty
      show Reading.splitSign (c :: digits) = (false, c :: digits)
      have hdigit := digit_range (decimal c (.head _))
      unfold Reading.splitSign
      split
      · rename_i heq
        cases heq
        exact absurd hdigit.1 (by decide)
      · rename_i heq
        cases heq
        exact absurd hdigit.1 (by decide)
      · rfl

/-- Taking off a sign leaves what is written after it. -/
theorem exists_splitSign (cs : List Char) :
    ∃ sign, cs = signText sign ++ (Reading.splitSign cs).2 ∧
      (Reading.splitSign cs).1 = (sign == some .negative) := by
  unfold Reading.splitSign
  split
  · exact ⟨some .negative, rfl, rfl⟩
  · exact ⟨some .positive, rfl, rfl⟩
  · exact ⟨none, rfl, rfl⟩

theorem isDigits_digits (n : Numeral) : Reading.isDigits n.digits = true := by
  simp only [Reading.isDigits, Bool.and_eq_true, Bool.not_eq_true', List.all_eq_true]
  exact ⟨by simpa using n.nonempty, n.decimal⟩

/-- A numeral is a whole number if it has no more digits than may be read. -/
theorem Spells.int? (h : n.Spells token) :
    Reading.int? token = if n.digits.length ≤ Reading.maxDigits then some n.value else none := by
  rw [Reading.int?, h.trimWhile, splitSign_text]
  dsimp only
  rw [n.isDigits_digits, asciiNumber_eq]
  simp [value, magnitude]

/-- **The tokens that are read as whole numbers** are the numerals of no more digits than may be
read, with white space around them at most. -/
theorem int?_eq_some {i : Int} :
    Reading.int? token = some i ↔
      ∃ n : Numeral, n.Spells token ∧ n.digits.length ≤ Reading.maxDigits ∧ n.value = i := by
  constructor
  · intro h
    obtain ⟨front, back, htoken, hfront, hback⟩ := exists_trimWhile isAsciiBlank token
    obtain ⟨sign, hsign, -⟩ := exists_splitSign (Text.trimWhile isAsciiBlank token)
    have hdigits : Reading.isDigits
        (Reading.splitSign (Text.trimWhile isAsciiBlank token)).2 = true := by
      by_contra hno
      rw [Reading.int?] at h
      dsimp only at h
      rw [Bool.eq_false_iff.mpr hno] at h
      cases h
    simp only [Reading.isDigits, Bool.and_eq_true, Bool.not_eq_true', List.isEmpty_eq_false_iff,
      List.all_eq_true] at hdigits
    let n : Numeral := ⟨sign, _, hdigits.1, hdigits.2⟩
    have htext : n.text = Text.trimWhile isAsciiBlank token := hsign.symm
    have hspells : n.Spells token := ⟨front, back, htext.symm ▸ htoken, hfront, hback⟩
    rw [hspells.int?] at h
    split at h
    · rename_i hshort
      exact ⟨n, hspells, hshort, Option.some.inj h⟩
    · cases h
  · rintro ⟨n, hspells, hshort, rfl⟩
    rw [hspells.int?, if_pos hshort]

/-! ### Reading a number -/

/-- A token that spells a numeral may be read. -/
theorem Spells.readable (h : n.Spells token) :
    token.all (fun c => c.toNat < 128 && c != '_') = true := by
  obtain ⟨front, back, rfl, hfront, hback⟩ := h
  have hblank : ∀ c, isAsciiBlank c = true → c.toNat < 128 ∧ c ≠ '_' := by
    intro c hc
    simp only [isAsciiBlank, Bool.or_eq_true, beq_iff_eq, Bool.and_eq_true, decide_eq_true_eq] at hc
    refine ⟨by omega, ?_⟩
    rintro rfl
    revert hc
    decide
  have htext : ∀ c ∈ n.text, c.toNat < 128 ∧ c ≠ '_' := by
    intro c hc
    rcases mem_text hc with rfl | rfl | hdigit
    · decide
    · decide
    · have hrange := digit_range hdigit
      refine ⟨by omega, ?_⟩
      rintro rfl
      exact absurd hrange.2 (by decide)
  simp only [List.all_eq_true, Bool.and_eq_true, decide_eq_true_eq, bne_iff_ne]
  intro c hc
  rcases List.mem_append.mp hc with hc | hc
  · rcases List.mem_append.mp hc with hc | hc
    · exact hblank c (hfront c hc)
    · exact htext c hc
  · exact hblank c (hback c hc)

/-- A numeral as a decimal has no point and no exponent. -/
theorem Spells.decimal? (h : n.Spells token) :
    Reading.decimal? token = some (Reading.nearest n.isNegative n.magnitude 0) := by
  have htake : n.digits.takeWhile Char.isDigit = n.digits :=
    List.takeWhile_eq_self_iff.mpr n.decimal
  have hdrop : n.digits.dropWhile Char.isDigit = [] := List.dropWhile_eq_nil_iff.mpr n.decimal
  have hparts : Reading.parts? n.digits = some (n.digits, [], 0) := by
    simp [Reading.parts?, htake, hdrop, n.nonempty, Reading.exponent?]
  rw [Reading.decimal?, h.trimWhile, splitSign_text]
  simp [hparts, asciiNumber_eq, magnitude]

/-- **A numeral of no more digits than may be read is the whole number that it denotes.** -/
theorem Spells.read?_of_short (h : n.Spells token) (hshort : n.digits.length ≤ Reading.maxDigits) :
    Number.read? token = some (.int n.value) := by
  rw [Number.read?, if_pos h.readable, h.int?, if_pos hshort]

theorem cast_value (n : Numeral) : (n.value : ℚ) = signed n.isNegative n.magnitude := by
  unfold value signed
  split <;> simp

/-- A longer numeral is read as a decimal. -/
theorem Spells.read?_eq_nearest (h : n.Spells token)
    (hlong : Reading.maxDigits < n.digits.length) :
    Number.read? token = match Reading.nearest n.isNegative n.magnitude 0 with
      | .finite x => some (.float x)
      | _ => none := by
  have hint : Reading.int? token = none := by rw [h.int?, if_neg hlong.not_ge]
  rw [Number.read?, if_pos h.readable, hint, h.decimal?]
  cases Reading.nearest n.isNegative n.magnitude 0 <;> rfl

/-- **A longer numeral is the nearest binary64 number**, if it is within their range, and no number
otherwise. -/
theorem Spells.read?_of_long (h : n.Spells token) (hlong : Reading.maxDigits < n.digits.length) :
    (n.magnitude < Argument.floatRange →
        ∃ x : Binary64, x.Rounds n.value ∧ Number.read? token = some (.float x)) ∧
      (Argument.floatRange ≤ n.magnitude → Number.read? token = none) := by
  have hrounds := nearest_rounds n.isNegative n.magnitude 0
  rw [zpow_zero, mul_one] at hrounds
  rw [h.read?_eq_nearest hlong]
  generalize Reading.nearest n.isNegative n.magnitude 0 = read at hrounds
  cases read with
  | finite x =>
      obtain ⟨-, hrange, hrounds⟩ := hrounds
      refine ⟨fun _ => ⟨x, n.cast_value ▸ hrounds, rfl⟩, fun hge => ?_⟩
      exact absurd (by exact_mod_cast hrange) hge.not_gt
  | infinite negative =>
      exact ⟨fun hlt => absurd (by exact_mod_cast hrounds.2) hlt.not_ge, fun _ => rfl⟩
  | nan => exact hrounds.elim

/-- **The tokens whose number is a whole number by its kind.** -/
theorem read?_eq_int {i : Int} :
    Number.read? token = some (.int i) ↔
      ∃ n : Numeral, n.Spells token ∧ n.digits.length ≤ Reading.maxDigits ∧ n.value = i := by
  constructor
  · intro h
    rw [← int?_eq_some]
    unfold Number.read? at h
    split at h
    · split at h
      · rename_i hint
        cases h
        exact hint
      · split at h <;> cases h
    · cases h
  · rintro ⟨n, hspells, hshort, rfl⟩
    exact hspells.read?_of_short hshort

/-! ### Numbers without demands -/

theorem splitToken_text (n : Numeral) (rest : List Char) :
    splitToken (n.text ++ ' ' :: rest) = (n.text, rest) := by
  refine splitToken_append (fun c hc => ?_) rest
  rintro rfl
  exact absurd (not_isAsciiBlank hc) (by decide)

/-- **What a number without demands makes of a numeral** with a space after it: the whole number
that it denotes, exactly if it has no more digits than may be read.  Of a longer one it makes the
nearest binary64 number, which is none of its kind, or it rejects it if there is no such number. -/
theorem validate_numeral (label : Label) (n : Numeral) (rest : List Char) :
    let a := Argument.number label {}
    let text := n.text ++ ' ' :: rest
    (a.validate text = .ok (.int n.value, rest) ↔ n.digits.length ≤ Reading.maxDigits) ∧
      (Reading.maxDigits < n.digits.length →
        (n.magnitude < Argument.floatRange → ∃ x : Binary64, x.Rounds n.value ∧
          a.validate text = .ok (.float (.finite x), rest)) ∧
        (Argument.floatRange ≤ n.magnitude →
          a.validate text = .error (.rejected ⟨a, .notNumber (String.ofList n.text)⟩))) := by
  intro a text
  have hsplit : splitToken text = (n.text, rest) := n.splitToken_text rest
  refine ⟨⟨fun haccepts => ?_, fun hshort => ?_⟩, fun hlong => ⟨fun hlt => ?_, fun hge => ?_⟩⟩
  · obtain ⟨m, hread, -, hvalue, -⟩ := Argument.number_accepts.mp haccepts
    rw [hsplit] at hread
    by_contra hlong
    obtain ⟨hfinite, hinfinite⟩ := n.spells_text.read?_of_long (not_le.mp hlong)
    rcases lt_or_ge n.magnitude Argument.floatRange with hlt | hge
    · obtain ⟨x, -, hfloat⟩ := hfinite hlt
      cases hread.symm.trans hfloat
      cases hvalue
    · cases hread.symm.trans (hinfinite hge)
  · refine Argument.number_accepts.mpr ⟨.int n.value, ?_, rfl, rfl, ?_⟩
    · rw [hsplit]
      exact n.spells_text.read?_of_short hshort
    · rw [hsplit]
  · obtain ⟨x, hrounds, hread⟩ := (n.spells_text.read?_of_long hlong).1 hlt
    refine ⟨x, hrounds, Argument.number_accepts.mpr ⟨.float x, ?_, rfl, rfl, ?_⟩⟩
    · rw [hsplit]
      exact hread
    · rw [hsplit]
  · have hread := (n.spells_text.read?_of_long hlong).2 hge
    exact Argument.number_rejects.mpr (.inl (by rw [hsplit]; exact ⟨hread, rfl⟩))

/-- The numeral of a seven behind as many zeros as digits may be read denotes seven, but it is read
as a binary64 number. -/
theorem not_validate_numeral_rehearsed :
    let n : Numeral := {
      sign := none
      digits := List.replicate Reading.maxDigits '0' ++ ['7']
      nonempty := by simp
      decimal := by
        intro c hc
        rcases List.mem_append.mp hc with hc | hc
        · rw [List.eq_of_mem_replicate hc]
          rfl
        · rw [List.mem_singleton.mp hc]
          rfl }
    let a := Argument.number {} {}
    n.value = 7 ∧ a.validate (n.text ++ ' ' :: ['x']) ≠ .ok (.int n.value, ['x']) ∧
      a.validate (n.text ++ ' ' :: ['x']) =
        .ok (.float (.finite ⟨false, 7 * 2 ^ 50, -50⟩), ['x']) := by
  intro n a
  have hmagnitude : n.magnitude = 7 := by
    simp [n, magnitude, Nat.ofDigits_cons, Nat.ofDigits_replicate_zero]
  have hvalue : n.value = 7 := by
    show ((n.magnitude : Nat) : Int) = 7
    rw [hmagnitude]
    rfl
  have hlong : Reading.maxDigits < n.digits.length := by simp [n]
  have hseven : Reading.nearest false 7 0 = .finite ⟨false, 7 * 2 ^ 50, -50⟩ := by decide
  have hread : Number.read? n.text = some (.float ⟨false, 7 * 2 ^ 50, -50⟩) := by
    rw [n.spells_text.read?_eq_nearest hlong, hmagnitude]
    show (match Reading.nearest false 7 0 with
      | .finite x => some (Number.float x)
      | _ => none) = _
    rw [hseven]
  have haccepts : a.validate (n.text ++ ' ' :: ['x']) =
      .ok (.float (.finite ⟨false, 7 * 2 ^ 50, -50⟩), ['x']) := by
    refine Argument.number_accepts.mpr ⟨.float ⟨false, 7 * 2 ^ 50, -50⟩, ?_, rfl, rfl, ?_⟩
    · rw [splitToken_text]
      exact hread
    · rw [splitToken_text]
  refine ⟨hvalue, ?_, haccepts⟩
  rw [haccepts]
  intro h
  cases h

end Numeral

end Switchboard
