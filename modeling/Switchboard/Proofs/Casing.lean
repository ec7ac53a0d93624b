import Switchboard.Proofs.Letters
import Switchboard.Text.Blank
import Switchboard.Text.Digit

/-!
# Proofs — Casing

Digits, white space and letters do not meet.  White space is no digit, and the upper case of neither
is a capital letter of ASCII, so a text whose upper case is a name has none of them in it.

* `not_isDigit_of_isBlank`: white space is no digit, of no script.
* `upperCode_of_isLetterless`, `not_isLetterless_of_upper`: what stands for capital letters is no
  digit and no white space.
* `EitherCase`, `EitherCase.upper_eq`: a name with each letter in either case.
* `isDigit_of_decimalNumber`: a decimal number has digits only.
-/

namespace Switchboard.Text

variable {c : Char} {cs : List Char}

theorem isDigit_ascii (hlow : c.toNat < 128) (h : isDigit c = true) :
    48 ≤ c.toNat ∧ c.toNat ≤ 57 := by
  simpa [isDigit, isDecimal, decimalValue?, hlow, Nat.not_le.mpr hlow] using h

/-- The white space beyond ASCII. -/
def wideBlanks : List Nat :=
  [0x85, 0xA0, 0x1680, 0x2000, 0x2001, 0x2002, 0x2003, 0x2004, 0x2005, 0x2006, 0x2007, 0x2008,
    0x2009, 0x200A, 0x2028, 0x2029, 0x202F, 0x205F, 0x3000]

theorem wideBlanks_digitless : ∀ code ∈ wideBlanks, isDigit (Char.ofNat code) = false := by
  decide +kernel

/-- **White space is no digit**, of no script. -/
theorem not_isDigit_of_isBlank (h : isBlank c = true) : isDigit c = false := by
  by_contra hdigit
  rw [Bool.not_eq_false] at hdigit
  simp only [isBlank] at h
  split at h
  · rename_i hlow
    have hrange := isDigit_ascii hlow hdigit
    simp only [Bool.or_eq_true, Bool.and_eq_true, beq_iff_eq, decide_eq_true_eq] at h
    omega
  · have hmem : c.toNat ∈ wideBlanks := by
      simp only [Bool.or_eq_true, Bool.and_eq_true, beq_iff_eq, decide_eq_true_eq] at h
      simp only [wideBlanks, List.mem_cons, List.not_mem_nil, or_false]
      omega
    have hno := wideBlanks_digitless _ hmem
    rw [c.ofNat_toNat, hdigit] at hno
    cases hno

/-- Whether the character is a digit or white space, neither of which is a letter. -/
def isLetterless (c : Char) : Bool :=
  isDigit c || isBlank c

/-- Of the runs of upper cases, only letters on their own get to ASCII. -/
theorem upperRuns_letterless : ∀ r ∈ upperRuns,
    90 < r.image ∨ (r.first = r.last ∧ isLetterless (Char.ofNat r.first) = false) := by
  decide +kernel

theorem upperExpansions_letterless :
    ∀ e ∈ upperExpansions, isLetterless (Char.ofNat e.1) = false := by
  decide +kernel

theorem isLetterless_ascii (hlow : c.toNat < 128) (h : isLetterless c = true) : c.toNat < 65 := by
  rcases Bool.or_eq_true_iff.mp h with hdigit | hblank
  · have hrange := isDigit_ascii hlow hdigit
    omega
  · simp only [isBlank, hlow, if_true, Bool.or_eq_true, Bool.and_eq_true, beq_iff_eq,
      decide_eq_true_eq] at hblank
    omega

/-- **The upper case of digits and of white space is no capital letter of ASCII.** -/
theorem upperCode_of_isLetterless (h : isLetterless c = true) :
    ∀ code ∈ upperCode c.toNat, code < 65 ∨ 90 < code := by
  unfold upperCode
  split
  · rename_i hlow
    have hrange := isLetterless_ascii hlow h
    split
    · rename_i hletter
      simp only [Bool.and_eq_true, decide_eq_true_eq] at hletter
      omega
    · simp only [List.mem_singleton, forall_eq]
      omega
  · rcases otherCase_cases upperExpansions upperRuns c.toNat with
      hmem | ⟨r, hr, image, himage, heq⟩ | heq
    · have hno := upperExpansions_letterless _ hmem
      rw [c.ofNat_toNat, h] at hno
      cases hno
    · obtain ⟨hfirst, hlast, -, rfl⟩ := CaseRun.image?_eq_some.mp himage
      rw [heq]
      rcases upperRuns_letterless r hr with hlarge | ⟨hone, hno⟩
      · simp only [List.mem_singleton, forall_eq]
        omega
      · rw [show r.first = c.toNat by omega, c.ofNat_toNat, h] at hno
        cases hno
    · rw [heq]
      simp only [List.mem_singleton, forall_eq]
      omega

theorem upperExpansions_ne_nil : ∀ e ∈ upperExpansions, e.2 ≠ [] := by
  decide +kernel

/-- Every character has an upper case. -/
theorem upperCode_ne_nil (code : Nat) : upperCode code ≠ [] := by
  unfold upperCode
  split
  · split <;> exact List.cons_ne_nil _ _
  · rcases otherCase_cases upperExpansions upperRuns code with hmem | ⟨r, -, image, -, heq⟩ | heq
    · exact upperExpansions_ne_nil _ hmem
    · rw [heq]
      exact List.cons_ne_nil _ _
    · rw [heq]
      exact List.cons_ne_nil _ _

/-- A character that is not the first of all has one code. -/
theorem eq_toNat_of_ofNat {code : Nat} (h : Char.ofNat code = c) (hpos : 0 < c.toNat) :
    code = c.toNat := by
  by_cases hvalid : code.isValidChar
  · have hcode : (Char.ofNatAux code hvalid).toNat = code := rfl
    rw [← h, Char.ofNat, dif_pos hvalid, hcode]
  · rw [← h, Char.ofNat, dif_neg hvalid] at hpos
    exact absurd hpos (by decide)

/-- **A character whose upper case stands among capital letters of ASCII is no digit and no white
space.** -/
theorem not_isLetterless_of_upper (h : ∀ x ∈ upper cs, 65 ≤ x.toNat ∧ x.toNat ≤ 90) (hc : c ∈ cs) :
    isLetterless c = false := by
  by_contra hno
  rw [Bool.not_eq_false] at hno
  obtain ⟨code, hcode⟩ := List.exists_mem_of_ne_nil _ (upperCode_ne_nil c.toNat)
  have hx := h (Char.ofNat code)
    (List.mem_flatMap.mpr ⟨c, hc, List.mem_map.mpr ⟨code, hcode, rfl⟩⟩)
  have heq : code = (Char.ofNat code).toNat := eq_toNat_of_ofNat rfl (by omega)
  have hcases := upperCode_of_isLetterless hno code hcode
  omega

/-- The word is the name with each of its capital letters as it is or as the small letter. -/
def EitherCase (word name : List Char) : Prop :=
  List.Forall₂ (fun c x => c.toNat = x.toNat ∨ c.toNat = x.toNat + 32) word name

/-- A name is the upper case of the words that are the name in either case. -/
theorem EitherCase.upper_eq {word name : List Char} (h : EitherCase word name)
    (hname : ∀ x ∈ name, 65 ≤ x.toNat ∧ x.toNat ≤ 90) : upper word = name := by
  induction h with
  | nil => rfl
  | @cons c x word name hcase _ ih =>
      obtain ⟨hx, hname⟩ := List.forall_mem_cons.mp hname
      have hcode : upperCode c.toNat = [x.toNat] := by
        rcases hcase with hcase | hcase <;> rw [hcase]
        · have hno : ¬ 97 ≤ x.toNat := by omega
          simp [upperCode, hno, show x.toNat < 128 by omega]
        · simp [upperCode, show x.toNat + 32 < 128 by omega, show 65 ≤ x.toNat by omega,
            show x.toNat ≤ 90 by omega]
      show (upperCode c.toNat).map Char.ofNat ++ upper word = x :: name
      rw [hcode, ih hname, List.map_singleton, x.ofNat_toNat]
      rfl

/-- A decimal number has digits only. -/
theorem isDigit_of_decimalNumber {n : Nat} (h : decimalNumber? cs = some n) :
    ∀ c ∈ cs, isDigit c = true := by
  have hall : ∀ (acc : Option Nat),
      cs.foldl (fun acc c => do return (← acc) * 10 + (← decimalValue? c)) acc = some n →
        acc.isSome ∧ ∀ c ∈ cs, isDigit c = true := by
    clear h
    induction cs with
    | nil =>
        intro acc hacc
        exact ⟨Option.isSome_iff_exists.mpr ⟨n, hacc⟩, List.forall_mem_nil _⟩
    | cons c cs ih =>
        intro acc hacc
        obtain ⟨hsome, hcs⟩ := ih _ hacc
        cases acc with
        | none => cases hsome
        | some k =>
            cases hc : decimalValue? c with
            | none => simp [hc] at hsome
            | some d =>
                exact ⟨rfl, List.forall_mem_cons.mpr ⟨by simp [isDigit, isDecimal, hc], hcs⟩⟩
  exact (hall (some 0) h).2

end Switchboard.Text
