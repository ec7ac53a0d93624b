import Mathlib.Data.List.Forall2
import Switchboard.Text.Fold

/-!
# Proofs — Letters

Comparing letters when case does not count.  Every character is the same letter as itself, and a
character that has no case is the same letter as itself only.

* `Text.otherCase_cases`, `Text.plainLower_cases`: what becomes of a code point.
* `Text.plainLower_ge`: what changes when it is lowered becomes a small letter or lies beyond.
* `Text.Same`, `Text.dropSame?_eq_some`: a text in other letter cases, which is what is taken off
  the front of a text.
-/

namespace Switchboard.Text

theorem mem_kin (code : Nat) : code ∈ kin code := by
  unfold kin
  cases hfamily : letterFamilies.find? (·.contains code) with
  | none => exact List.mem_singleton_self code
  | some family => simpa using List.find?_some hfamily

theorem sameLetter_self (c : Char) : sameLetter c c = true := by
  simpa [sameLetter] using mem_kin (plainLower c.toNat)

/-! ### Characters without a case -/

theorem le_image_of_mem_lowerRuns : ∀ r ∈ lowerRuns, 97 ≤ r.image := by decide +kernel

/-- What a run does to a code point. -/
theorem CaseRun.image?_eq_some {r : CaseRun} {code image : Nat} :
    r.image? code = some image ↔
      r.first ≤ code ∧ code ≤ r.last ∧ (code - r.first) % r.stride = 0 ∧
        code - r.first + r.image = image := by
  simp [image?, and_assoc]

/-- **What a code point has for its other case**: a list of its own, or the image of a run, or
itself. -/
theorem otherCase_cases (expansions : List (Nat × List Nat)) (runs : List CaseRun) (code : Nat) :
    (code, otherCase expansions runs code) ∈ expansions ∨
      (∃ r ∈ runs, ∃ image, r.image? code = some image ∧
        otherCase expansions runs code = [image]) ∨
      otherCase expansions runs code = [code] := by
  unfold otherCase
  cases hlookup : expansions.lookup code with
  | some codes =>
      obtain ⟨before, after, rfl, -⟩ := List.lookup_eq_some_iff.mp hlookup
      exact .inl (List.mem_append_right before (List.mem_cons_self ..))
  | none =>
      cases himage : runs.findSome? (·.image? code) with
      | none => exact .inr (.inr rfl)
      | some image =>
          obtain ⟨r, hr, hrun⟩ := List.exists_of_findSome?_eq_some himage
          exact .inr (.inl ⟨r, hr, image, hrun, rfl⟩)

/-- **What lowering does to a code point**: nothing, or it is a capital letter of ASCII, the only
letter with several letters for its lower case, or a letter of a run. -/
theorem plainLower_cases (code : Nat) :
    plainLower code = code ∨ (65 ≤ code ∧ code ≤ 90 ∧ plainLower code = code + 32) ∨
      (code = 0x130 ∧ plainLower code = 0x69) ∨
      ∃ r ∈ lowerRuns, r.first ≤ code ∧ code ≤ r.last ∧
        plainLower code = code - r.first + r.image := by
  unfold plainLower lowerCode
  split
  · split
    · rename_i hupper
      have hbounds : 65 ≤ code ∧ code ≤ 90 := by simpa using hupper
      exact .inr (.inl ⟨hbounds.1, hbounds.2, rfl⟩)
    · exact .inl rfl
  · rcases otherCase_cases lowerExpansions lowerRuns code with hmem | ⟨r, hr, image, himage, heq⟩ | heq
    · obtain ⟨hcode, heq⟩ := Prod.mk.inj (List.mem_singleton.mp hmem)
      exact .inr (.inr (.inl ⟨hcode, by rw [heq]; rfl⟩))
    · obtain ⟨hfirst, hlast, -, rfl⟩ := CaseRun.image?_eq_some.mp himage
      exact .inr (.inr (.inr ⟨r, hr, hfirst, hlast, by rw [heq]; rfl⟩))
    · exact .inl (by rw [heq]; rfl)

/-- What changes when it is lowered becomes a small letter of ASCII or lies beyond ASCII. -/
theorem plainLower_ge {code : Nat} (h : plainLower code ≠ code) : 97 ≤ plainLower code := by
  rcases plainLower_cases code with heq | ⟨hge, -, heq⟩ | ⟨-, heq⟩ | ⟨r, hr, -, -, heq⟩
  · exact absurd heq h
  · omega
  · omega
  · have himage := le_image_of_mem_lowerRuns r hr
    omega

/-- A character before the small letters that has no case and no kin is the same letter as itself
only. -/
theorem eq_of_sameLetter {c d : Char} (hlower : plainLower c.toNat = c.toNat)
    (hkin : kin c.toNat = [c.toNat]) (hlt : c.toNat < 97) (h : sameLetter c d = true) : d = c := by
  have hd : plainLower d.toNat = c.toNat := by
    rw [sameLetter, hlower, hkin] at h
    simpa using h
  have hself : plainLower d.toNat = d.toNat := by
    by_contra hne
    have hge := plainLower_ge hne
    omega
  exact Char.toNat_inj.mp (hself.symm.trans hd)

/-! ### Texts in other letter cases -/

/-- The text is another in other letter cases. -/
def Same (front cs : List Char) : Prop := List.Forall₂ (fun c d => sameLetter c d = true) front cs

theorem Same.refl (front : List Char) : Same front front :=
  List.forall₂_same.mpr fun c _ => sameLetter_self c

/-- **What is taken off the front of a text** is the given text in other letter cases. -/
theorem dropSame?_eq_some {front cs rest : List Char} :
    dropSame? front cs = some rest ↔ ∃ same, cs = same ++ rest ∧ Same front same := by
  induction front generalizing cs with
  | nil =>
      constructor
      · intro h
        rw [dropSame?] at h
        exact ⟨[], Option.some.inj h, .nil⟩
      · rintro ⟨same, rfl, h⟩
        cases h
        rw [dropSame?, List.nil_append]
  | cons c front ih =>
      cases cs with
      | nil =>
          constructor
          · intro h
            cases h
          · rintro ⟨same, hcs, h⟩
            cases h
            cases hcs
      | cons d cs =>
          rw [dropSame?]
          constructor
          · intro h
            split at h
            · rename_i hletter
              obtain ⟨same, rfl, hsame⟩ := ih.mp h
              exact ⟨d :: same, rfl, .cons hletter hsame⟩
            · cases h
          · rintro ⟨same, hcs, h⟩
            cases h with
            | cons hletter hsame =>
                cases hcs
                rw [if_pos hletter]
                exact ih.mpr ⟨_, rfl, hsame⟩

/-- A text is taken off the front of every text that begins with it. -/
theorem dropSame?_append (front rest : List Char) :
    dropSame? front (front ++ rest) = some rest :=
  dropSame?_eq_some.mpr ⟨front, rfl, .refl front⟩

end Switchboard.Text
