import Mathlib.Data.List.Flatten
import Mathlib.Data.Nat.Bitwise
import Switchboard.Proofs.Casing
import Switchboard.Proofs.Constraints

/-!
# Proofs — Recasing

Forcing a text into a case twice.  What a case makes of a letter is in the case already: the tables
of the cases give nothing that they take, which is one check of two rows of code points.  Nor do
they give a space.  So a text argument that accepts a text accepts its own value again, as the same
value and with nothing left over: the value is in the case that is forced, is its own first token,
and has met the demands before.

* `Recasing`, `Recasing.code_cases`: the two cases as one function of their tables.
* `Recasing.upperCase_closed`, `Recasing.lowerCase_closed`: nothing that is given is taken.
* `upper_upper`, `lower_lower`: a case of the same case.
* `TextRule.forced_forced`, `TextRule.space_mem_forced`: what is forced is forced once.
* `Argument.validate_value`: the value of a text argument is a fixed point.
-/

namespace Switchboard

namespace Text

/-! ### Rows of code points as bits -/

/-- A row of numbers as the bits of one number. -/
def bits (codes : List Nat) : Nat :=
  codes.foldr (fun code mask => mask ||| 1 <<< code) 0

theorem testBit_bits {codes : List Nat} {code : Nat} (h : code ∈ codes) :
    (bits codes).testBit code = true := by
  induction codes with
  | nil => cases h
  | cons first codes ih =>
      show (bits codes ||| 1 <<< first).testBit code = true
      rw [Nat.testBit_or, Bool.or_eq_true]
      rcases List.mem_cons.mp h with rfl | h
      · exact .inr (by simp [Nat.testBit_shiftLeft])
      · exact .inl (ih h)

/-- Rows that have no bit in common have no number in common. -/
theorem disjoint_of_bits {xs ys : List Nat} (h : bits xs &&& bits ys = 0) :
    List.Disjoint xs ys := by
  intro code hx hy
  have hboth : (bits xs &&& bits ys).testBit code = true := by
    rw [Nat.testBit_and, testBit_bits hx, testBit_bits hy]
    rfl
  rw [h, Nat.zero_testBit] at hboth
  cases hboth

namespace CaseRun

/-- The letters of a run. -/
def codes (r : CaseRun) : List Nat :=
  List.range' r.first ((r.last - r.first) / r.stride + 1) r.stride

/-- What the letters of a run are mapped to. -/
def images (r : CaseRun) : List Nat :=
  r.codes.map fun code => code - r.first + r.image

theorem mem_of_image? {r : CaseRun} {code image : Nat} (h : r.image? code = some image) :
    code ∈ r.codes ∧ image ∈ r.images := by
  obtain ⟨hfirst, hlast, hstep, himage⟩ := image?_eq_some.mp h
  have hcode : code ∈ r.codes := by
    refine List.mem_range'.mpr ⟨(code - r.first) / r.stride, ?_, ?_⟩
    · have hle : code - r.first ≤ r.last - r.first := by omega
      exact Nat.lt_succ_of_le (Nat.div_le_div_right hle)
    · have hwhole := Nat.div_add_mod (code - r.first) r.stride
      omega
  exact ⟨hcode, List.mem_map.mpr ⟨code, hcode, himage⟩⟩

/-- A run without gaps. -/
theorem getD_image? (first last image code : Nat) :
    ((CaseRun.mk first last 1 image).image? code).getD code =
      if first ≤ code ∧ code ≤ last then code - first + image else code := by
  simp only [image?, Nat.mod_one, beq_self_eq_true, Bool.and_true, Bool.and_eq_true,
    decide_eq_true_eq]
  split <;> rfl

end CaseRun

/-! ### The two cases -/

/-- The tables of a case: what becomes of the letters of ASCII and of all others. -/
structure Recasing where
  ascii : CaseRun
  expansions : List (Nat × List Nat)
  runs : List CaseRun

namespace Recasing

/-- A code point in the case. -/
def code (t : Recasing) (n : Nat) : List Nat :=
  if n < 128 then [(t.ascii.image? n).getD n] else otherCase t.expansions t.runs n

/-- The code points that are not in the case. -/
def taken (t : Recasing) : List Nat :=
  (t.ascii :: t.runs).flatMap (·.codes) ++ t.expansions.map (·.1)

/-- What the case makes of them. -/
def given (t : Recasing) : List Nat :=
  (t.ascii :: t.runs).flatMap (·.images) ++ t.expansions.flatMap (·.2)

/-- What the case gives it does not take, and it gives no space. -/
structure Closed (t : Recasing) : Prop where
  apart : List.Disjoint t.given (32 :: t.taken)
  /-- What is no code point counts as the first of all. -/
  zero : t.code 0 = [0]

variable {t : Recasing} {n x : Nat} {c d : Char}

/-- **A code point is in the case, or it is taken and the case gives something for it.** -/
theorem code_cases (t : Recasing) (n : Nat) :
    t.code n = [n] ∨ (n ∈ t.taken ∧ ∀ x ∈ t.code n, x ∈ t.given) := by
  have hrun : ∀ r ∈ t.ascii :: t.runs, ∀ image, r.image? n = some image →
      n ∈ t.taken ∧ image ∈ t.given := by
    intro r hr image himage
    obtain ⟨hn, himage⟩ := CaseRun.mem_of_image? himage
    exact ⟨List.mem_append_left _ (List.mem_flatMap.mpr ⟨r, hr, hn⟩),
      List.mem_append_left _ (List.mem_flatMap.mpr ⟨r, hr, himage⟩)⟩
  unfold code
  split
  · cases himage : t.ascii.image? n with
    | none => exact .inl rfl
    | some image =>
        obtain ⟨hn, himage⟩ := hrun _ (List.mem_cons_self ..) image himage
        exact .inr ⟨hn, by simpa using himage⟩
  · rcases otherCase_cases t.expansions t.runs n with hmem | ⟨r, hr, image, himage, heq⟩ | heq
    · exact .inr ⟨List.mem_append_right _ (List.mem_map.mpr ⟨_, hmem, rfl⟩),
        fun x hx => List.mem_append_right _ (List.mem_flatMap.mpr ⟨_, hmem, hx⟩)⟩
    · obtain ⟨hn, himage⟩ := hrun r (List.mem_cons_of_mem _ hr) image himage
      exact .inr ⟨hn, by simpa [heq] using himage⟩
    · exact .inl heq

/-- **What the case makes of a code point is in the case.** -/
theorem Closed.code_of_mem (h : t.Closed) (hx : x ∈ t.code n) : t.code x = [x] := by
  rcases code_cases t n with hself | ⟨-, hgiven⟩
  · rw [hself] at hx
    cases List.mem_singleton.mp hx
    exact hself
  · refine (code_cases t x).resolve_right fun htaken => ?_
    exact h.apart (hgiven x hx) (List.mem_cons_of_mem _ htaken.1)

/-- The case makes a space of a space only. -/
theorem Closed.eq_of_space_mem (h : t.Closed) (hx : 32 ∈ t.code n) : n = 32 := by
  rcases code_cases t n with hself | ⟨-, hgiven⟩
  · rw [hself] at hx
    exact (List.mem_singleton.mp hx).symm
  · exact absurd (List.mem_cons_self ..) (h.apart (hgiven 32 hx))

/-- A character in the case. -/
def chars (t : Recasing) (c : Char) : List Char :=
  (t.code c.toNat).map Char.ofNat

theorem Closed.chars_of_mem (h : t.Closed) (hd : d ∈ t.chars c) : t.chars d = [d] := by
  obtain ⟨n, hn, heq⟩ := List.mem_map.mp hd
  rcases Nat.eq_zero_or_pos d.toNat with hzero | hpos
  · rw [chars, hzero, h.zero, ← hzero, List.map_singleton, d.ofNat_toNat]
  · rw [chars, ← eq_toNat_of_ofNat heq hpos, h.code_of_mem hn, List.map_singleton, heq]

theorem Closed.eq_space (h : t.Closed) (hc : ' ' ∈ t.chars c) : c = ' ' := by
  obtain ⟨n, hn, heq⟩ := List.mem_map.mp hc
  rw [eq_toNat_of_ofNat heq (by decide)] at hn
  exact Char.toNat_inj.mp (h.eq_of_space_mem hn)

/-! ### The tables -/

/-- The tables of the upper case. -/
def upperCase : Recasing := ⟨⟨97, 122, 1, 65⟩, upperExpansions, upperRuns⟩

/-- The tables of the lower case. -/
def lowerCase : Recasing := ⟨⟨65, 90, 1, 97⟩, lowerExpansions, lowerRuns⟩

theorem upperCase_closed : upperCase.Closed :=
  ⟨disjoint_of_bits (by decide +kernel), by decide⟩

theorem lowerCase_closed : lowerCase.Closed :=
  ⟨disjoint_of_bits (by decide +kernel), by decide⟩

theorem upperCode_eq (n : Nat) : upperCode n = upperCase.code n := by
  unfold upperCode code
  refine if_congr Iff.rfl ?_ rfl
  rw [upperCase, CaseRun.getD_image?]
  by_cases hletter : 97 ≤ n ∧ n ≤ 122
  · simp [hletter, show n - 97 + 65 = n - 32 by omega]
  · simp [hletter]

theorem lowerCode_eq (n : Nat) : lowerCode n = lowerCase.code n := by
  unfold lowerCode code
  refine if_congr Iff.rfl ?_ rfl
  rw [lowerCase, CaseRun.getD_image?]
  by_cases hletter : 65 ≤ n ∧ n ≤ 90
  · simp [hletter, show n - 65 + 97 = n + 32 by omega]
  · simp [hletter]

end Recasing

open Recasing

/-! ### Upper case -/

theorem upper_eq (cs : List Char) : upper cs = cs.flatMap upperCase.chars := by
  simp only [upper, upperCode_eq]
  rfl

/-- **The upper case of an upper case is the upper case.** -/
theorem upper_upper (cs : List Char) : upper (upper cs) = upper cs := by
  simp only [upper_eq, List.flatMap_assoc]
  refine List.flatMap_congr fun c _ => ?_
  calc (upperCase.chars c).flatMap upperCase.chars
      = (upperCase.chars c).flatMap fun d => [d] :=
        List.flatMap_congr fun d hd => upperCase_closed.chars_of_mem hd
    _ = upperCase.chars c := List.flatMap_singleton' _

theorem space_mem_upper {cs : List Char} (h : ' ' ∈ upper cs) : ' ' ∈ cs := by
  rw [upper_eq] at h
  obtain ⟨c, hc, hspace⟩ := List.mem_flatMap.mp h
  rwa [← upperCase_closed.eq_space hspace]

/-! ### Lower case

A sigma is lowered by what stands around it, every other character on its own.  There is no capital
sigma in a text that has been lowered, so what stands around matters no more. -/

/-- A character that stays as it is when a text is lowered. -/
def Lowered (c : Char) : Prop := c ≠ 'Σ' ∧ lowerCase.chars c = [c]

theorem lowerAfter_cons (cased : Bool) (c : Char) (cs : List Char) :
    ∃ cased', lowerAfter cased (c :: cs) =
      (if c = 'Σ' then [if cased && !startsCased cs then 'ς' else 'σ'] else lowerCase.chars c) ++
        lowerAfter cased' cs := by
  simp only [lowerAfter, beq_iff_eq, lowerCode_eq]
  exact ⟨_, rfl⟩

theorem lowered_of_mem {cased : Bool} {cs : List Char} {d : Char} (h : d ∈ lowerAfter cased cs) :
    Lowered d := by
  induction cs generalizing cased with
  | nil => cases h
  | cons c cs ih =>
      obtain ⟨cased', heq⟩ := lowerAfter_cons cased c cs
      rw [heq] at h
      rcases List.mem_append.mp h with h | h
      · split at h
        · cases List.mem_singleton.mp h
          split <;> exact ⟨by decide, by decide +kernel⟩
        · have hd := lowerCase_closed.chars_of_mem h
          refine ⟨?_, hd⟩
          rintro rfl
          exact absurd hd (by decide +kernel)
      · exact ih h

theorem lowerAfter_of_lowered {cs : List Char} (h : ∀ c ∈ cs, Lowered c) (cased : Bool) :
    lowerAfter cased cs = cs := by
  induction cs generalizing cased with
  | nil => rfl
  | cons c cs ih =>
      obtain ⟨⟨hsigma, hself⟩, hcs⟩ := List.forall_mem_cons.mp h
      obtain ⟨cased', heq⟩ := lowerAfter_cons cased c cs
      rw [heq, if_neg hsigma, hself, ih hcs]
      rfl

/-- **The lower case of a lower case is the lower case.** -/
theorem lower_lower (cs : List Char) : lower (lower cs) = lower cs :=
  lowerAfter_of_lowered (fun _ => lowered_of_mem) false

theorem space_mem_lowerAfter {cased : Bool} {cs : List Char} (h : ' ' ∈ lowerAfter cased cs) :
    ' ' ∈ cs := by
  induction cs generalizing cased with
  | nil => cases h
  | cons c cs ih =>
      obtain ⟨cased', heq⟩ := lowerAfter_cons cased c cs
      rw [heq] at h
      rcases List.mem_append.mp h with h | h
      · split at h
        · have hsigma := List.mem_singleton.mp h
          split at hsigma <;> exact absurd hsigma (by decide)
        · rw [lowerCase_closed.eq_space h]
          exact List.mem_cons_self ..
      · exact List.mem_cons_of_mem c (ih h)

end Text

/-! ### Forced texts -/

namespace TextRule

/-- **A text that has been forced into a case is in it.** -/
theorem forced_forced (r : TextRule) (cs : List Char) : r.forced (r.forced cs) = r.forced cs := by
  unfold forced
  cases r.letterCase with
  | none => rfl
  | some letterCase =>
      cases letterCase with
      | upper => exact Text.upper_upper cs
      | lower => exact Text.lower_lower cs

/-- No text gets a space by being forced. -/
theorem space_mem_forced {r : TextRule} {cs : List Char} (h : ' ' ∈ r.forced cs) : ' ' ∈ cs := by
  unfold forced at h
  cases hcase : r.letterCase with
  | none => rwa [hcase] at h
  | some letterCase =>
      rw [hcase] at h
      cases letterCase with
      | upper => exact Text.space_mem_upper h
      | lower => exact Text.space_mem_lowerAfter h

end TextRule

namespace Portion

variable {portion : Portion} {cs x left : List Char}

theorem Cuts.spaceless (h : Portion.token.Cuts cs x left) : ' ' ∉ x := by
  cases h with
  | whole h => exact h
  | token h => exact h

/-- A forced portion is the whole of itself. -/
theorem Cuts.forced (h : portion.Cuts cs x left) (r : TextRule) :
    portion.Cuts (r.forced x) (r.forced x) [] := by
  cases portion with
  | token => exact .whole fun hspace => h.spaceless (TextRule.space_mem_forced hspace)
  | all => exact .all _

end Portion

namespace Argument

/-- An argument for texts takes a portion. -/
theorem exists_portion {a : Argument} (h : a.kind = .string ∨ a.kind = .rest) :
    ∃ portion label rule, a = Portion.argument portion label rule := by
  cases a with
  | string label rule => exact ⟨.token, label, rule, rfl⟩
  | rest label rule => exact ⟨.all, label, rule, rfl⟩
  | _ => rcases h with h | h <;> cases h

/-- **The value of an argument for texts is a fixed point.**  If a text or rest argument, under any
demands, accepts a text, its value is a text that the same argument accepts again, with the same
value and with nothing left; the value of a text argument has no space. -/
theorem validate_value {a : Argument} (hkind : a.kind = .string ∨ a.kind = .rest)
    {cs left : List Char} {value : Value} (h : a.validate cs = .ok (value, left)) :
    ∃ text : String, value = .text text ∧
      a.validate text.toList = .ok (.text text, []) ∧
      (a.kind = .string → ' ' ∉ text.toList) := by
  obtain ⟨portion, label, rule, rfl⟩ := exists_portion hkind
  obtain ⟨x, rest, hcuts⟩ := portion.exists_cuts cs
  obtain ⟨hmeets, rfl, rfl⟩ := (text_accepts hcuts).mp h
  refine ⟨_, rfl, ?_, ?_⟩
  · rw [String.toList_ofList, text_accepts (hcuts.forced rule), rule.forced_forced]
    exact ⟨hmeets, rfl, rfl⟩
  · intro hstring hspace
    rw [String.toList_ofList] at hspace
    cases portion with
    | token => exact hcuts.spaceless (TextRule.space_mem_forced hspace)
    | all => cases hstring

/-- Six letters are seven once they are forced into upper case, and stay seven. -/
theorem validate_value_rehearsed :
    let a : Argument := .string {} { minimum := some 7, letterCase := some .upper }
    a.validate "stra\u00dfe 5".toList = .ok (.text "STRASSE", "5".toList) ∧
      a.validate "STRASSE".toList = .ok (.text "STRASSE", []) := by
  intro a
  have hcuts : Portion.token.Cuts "stra\u00dfe 5".toList "stra\u00dfe".toList "5".toList :=
    .token (x := "stra\u00dfe".toList) (by decide) ['5']
  have hforced : TextRule.forced { minimum := some 7, letterCase := some .upper }
      "stra\u00dfe".toList = "STRASSE".toList := by decide +kernel
  have h : a.validate "stra\u00dfe 5".toList = .ok (.text "STRASSE", "5".toList) := by
    refine (text_accepts hcuts).mpr ⟨?_, by rw [hforced]; rfl, rfl⟩
    rw [hforced]
    exact ⟨⟨by rintro _ ⟨⟩; decide, nofun, nofun⟩, nofun⟩
  obtain ⟨text, heq, hagain, -⟩ := validate_value (.inl rfl) h
  cases heq
  exact ⟨h, hagain⟩

end Argument

end Switchboard
