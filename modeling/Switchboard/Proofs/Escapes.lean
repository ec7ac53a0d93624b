import Mathlib.Algebra.Group.Nat.Defs
import Mathlib.Tactic.SplitIfs
import Switchboard.Json
import Switchboard.Pattern.Parser

/-!
# Proofs — Escapes

Reading what stands between the quotes of a JSON string.  An escape stands for one 16-bit unit, in
four hexadecimal digits of either case or as one letter, and every other character but a control
character stands for itself; two surrogates in a row are one character, and a surrogate on its own
is none.  The reader knows nothing of how a text is written: there are many ways to write one.

* `units?`, `paired`, `text?`: the reader, up to the closing quote.
* `units?_escapeChar`, `paired_unitsOf`: a character that is written is read as its units, and these
  are paired as the character.
* `text?_escaped`: **what is written is read**, whatever stands behind it.
* `escapeChar_ascii`: what is written is ASCII.
-/

namespace Switchboard.Json

/-! ### The reader -/

/-- The unit that hexadecimal digits denote. -/
def hexUnit? (digits : List Char) : Option Nat :=
  if digits.all Pattern.isHexDigit then some (Pattern.hexNumber digits) else none

/-- The unit that a letter stands for behind a backslash. -/
def shortEscape? : Char → Option Nat
  | '"' => some 0x22
  | '\\' => some 0x5C
  | '/' => some 0x2F
  | 'b' => some 0x08
  | 'f' => some 0x0C
  | 'n' => some 0x0A
  | 'r' => some 0x0D
  | 't' => some 0x09
  | _ => none

/-- A unit before the units that are read behind it. -/
def withUnit (unit : Nat) (read : Option (List Nat × List Char)) : Option (List Nat × List Char) :=
  read.map fun (units, left) => (unit :: units, left)

/-- The units up to the closing quote, and the text behind it. -/
def units? : List Char → Option (List Nat × List Char)
  | [] => none
  | '"' :: left => some ([], left)
  | '\\' :: 'u' :: a :: b :: c :: d :: cs =>
      (hexUnit? [a, b, c, d]).bind fun unit => withUnit unit (units? cs)
  | '\\' :: letter :: cs => (shortEscape? letter).bind fun unit => withUnit unit (units? cs)
  | c :: cs => if c.toNat < 0x20 then none else withUnit c.toNat (units? cs)

/-- The code points of units. -/
def paired : List Nat → List Nat
  | [] => []
  | [unit] => [unit]
  | high :: low :: units =>
      if 0xD800 ≤ high ∧ high < 0xDC00 ∧ 0xDC00 ≤ low ∧ low < 0xE000 then
        (0x10000 + (high - 0xD800) * 0x400 + (low - 0xDC00)) :: paired units
      else high :: paired (low :: units)

/-- The character of a code point. -/
def char? (code : Nat) : Option Char :=
  if code.isValidChar then some (Char.ofNat code) else none

/-- The text up to the closing quote, and what stands behind it. -/
def text? (cs : List Char) : Option (List Char × List Char) :=
  (units? cs).bind fun (units, left) => ((paired units).mapM char?).map fun text => (text, left)

theorem exists_of_withUnit {unit : Nat} {read : Option (List Nat × List Char)} {units : List Nat}
    {left : List Char} (h : withUnit unit read = some (units, left)) :
    ∃ more, read = some (more, left) := by
  obtain ⟨⟨more, left'⟩, hread, heq⟩ := Option.map_eq_some_iff.mp h
  cases heq
  exact ⟨more, hread⟩

theorem length_of_units? {cs left : List Char} {units : List Nat}
    (h : units? cs = some (units, left)) : left.length < cs.length := by
  fun_induction units? cs generalizing units with
  | case1 => cases h
  | case2 =>
      cases h
      exact Nat.lt_succ_self _
  | case3 a b c d cs ih =>
      obtain ⟨unit, -, h⟩ := Option.bind_eq_some_iff.mp h
      obtain ⟨more, hread⟩ := exists_of_withUnit h
      have hlt := ih hread
      simp only [List.length_cons]
      omega
  | case4 letter cs _ ih =>
      obtain ⟨unit, -, h⟩ := Option.bind_eq_some_iff.mp h
      obtain ⟨more, hread⟩ := exists_of_withUnit h
      have hlt := ih hread
      simp only [List.length_cons]
      omega
  | case5 => cases h
  | case6 c cs _ _ _ _ ih =>
      obtain ⟨more, hread⟩ := exists_of_withUnit h
      exact Nat.lt_succ_of_lt (ih hread)

/-- Reading a string takes something off a text. -/
theorem length_of_text? {cs text left : List Char} (h : text? cs = some (text, left)) :
    left.length < cs.length := by
  obtain ⟨⟨units, left'⟩, hunits, h⟩ := Option.bind_eq_some_iff.mp h
  obtain ⟨text', -, heq⟩ := Option.map_eq_some_iff.mp h
  cases heq
  exact length_of_units? hunits

/-! ### Units -/

/-- The units of a character. -/
def unitsOf (c : Char) : List Nat :=
  if c.toNat < 0x10000 then [c.toNat]
  else [0xD800 + (c.toNat - 0x10000) / 0x400, 0xDC00 + (c.toNat - 0x10000) % 0x400]

theorem toNat_bounds (c : Char) : c.toNat < 0xD800 ∨ 0xDFFF < c.toNat ∧ c.toNat < 0x110000 :=
  c.valid

theorem paired_unitsOf (c : Char) (units : List Nat) :
    paired (unitsOf c ++ units) = c.toNat :: paired units := by
  have hbounds := toNat_bounds c
  unfold unitsOf
  split
  · -- no character is a surrogate, so it is not paired with what stands behind it
    cases units with
    | nil => simp [paired]
    | cons low units =>
        rw [List.singleton_append, paired, if_neg]
        omega
  · have hcode : 0x10000 + (0xD800 + (c.toNat - 0x10000) / 0x400 - 0xD800) * 0x400 +
        (0xDC00 + (c.toNat - 0x10000) % 0x400 - 0xDC00) = c.toNat := by omega
    rw [List.cons_append, List.singleton_append, paired, if_pos (by omega), hcode]

theorem paired_flatMap (cs : List Char) : paired (cs.flatMap unitsOf) = cs.map Char.toNat := by
  induction cs with
  | nil => rfl
  | cons c cs ih => rw [List.flatMap_cons, paired_unitsOf, ih, List.map_cons]

theorem mapM_char? (cs : List Char) : (cs.map Char.toNat).mapM char? = some cs := by
  induction cs with
  | nil => rfl
  | cons c cs ih =>
      have hc : char? c.toNat = some c := by
        rw [char?, if_pos (show c.toNat.isValidChar from c.valid), c.ofNat_toNat]
      simp [hc, ih]

/-! ### Hexadecimal digits -/

theorem digitChar_hex : ∀ d < 16, Pattern.isHexDigit (Nat.digitChar d) = true ∧
    Pattern.hexNumber [Nat.digitChar d] = d ∧ (Nat.digitChar d).toNat < 128 := by
  decide

theorem hexNumber_concat (digits : List Char) (c : Char) :
    Pattern.hexNumber (digits ++ [c]) =
      Pattern.hexNumber digits * 16 + Pattern.hexNumber [c] := by
  simp [Pattern.hexNumber]

theorem hexNumber_hexDigits (width n : Nat) :
    Pattern.hexNumber (Text.hexDigits width n) = n % 16 ^ width := by
  induction width generalizing n with
  | zero => simp [Text.hexDigits, Pattern.hexNumber, Nat.mod_one]
  | succ width ih =>
      rw [Text.hexDigits, hexNumber_concat, ih, (digitChar_hex _ (Nat.mod_lt n (by decide))).2.1,
        Nat.pow_succ', Nat.mod_mul]
      omega

theorem forall_mem_hexDigits {p : Char → Prop} (h : ∀ d < 16, p (Nat.digitChar d)) (width n : Nat) :
    ∀ c ∈ Text.hexDigits width n, p c := by
  induction width generalizing n with
  | zero => exact List.forall_mem_nil p
  | succ width ih =>
      rw [Text.hexDigits, List.forall_mem_append]
      exact ⟨ih _, by simpa using h _ (Nat.mod_lt n (by decide))⟩

/-- Four hexadecimal digits denote the unit that they are written for. -/
theorem hexUnit?_hexDigits {n : Nat} (h : n < 0x10000) :
    hexUnit? (Text.hexDigits 4 n) = some n := by
  have hall : (Text.hexDigits 4 n).all Pattern.isHexDigit = true :=
    List.all_eq_true.mpr (forall_mem_hexDigits (fun d hd => (digitChar_hex d hd).1) 4 n)
  rw [hexUnit?, if_pos hall, hexNumber_hexDigits, Nat.mod_eq_of_lt (show n < 16 ^ 4 from h)]

/-! ### Reading what is written -/

theorem units?_unitEscape {n : Nat} (h : n < 0x10000) (cs : List Char) :
    units? (unitEscape n ++ cs) = withUnit n (units? cs) := by
  obtain ⟨a, b, c, d, hdigits⟩ : ∃ a b c d, Text.hexDigits 4 n = [a, b, c, d] :=
    ⟨_, _, _, _, rfl⟩
  have hunit := hexUnit?_hexDigits h
  rw [hdigits] at hunit
  rw [unitEscape, hdigits]
  show units? ('\\' :: 'u' :: a :: b :: c :: d :: cs) = _
  rw [units?, hunit, Option.bind_some]

/-- A letter behind a backslash. -/
theorem units?_shortEscape {letter : Char} {unit : Nat} (h : shortEscape? letter = some unit)
    (cs : List Char) : units? ('\\' :: letter :: cs) = withUnit unit (units? cs) := by
  have hletter : letter ≠ 'u' := by
    rintro rfl
    cases h
  rw [units?, h, Option.bind_some]
  rintro a b c d cs rfl
  exact absurd rfl hletter

/-- A character that stands for itself. -/
theorem units?_plain {c : Char} (hquote : c ≠ '"') (hslash : c ≠ '\\') (hlow : 0x20 ≤ c.toNat)
    (cs : List Char) : units? (c :: cs) = withUnit c.toNat (units? cs) := by
  rw [units?, if_neg (Nat.not_lt.mpr hlow)]
  · exact hquote
  · exact fun _ _ _ _ _ h _ => hslash h
  · exact fun _ _ h _ => hslash h

/-- **A character that is written is read as its units.** -/
theorem units?_escapeChar (c : Char) (cs : List Char) :
    units? (escapeChar c ++ cs) = (unitsOf c).foldr withUnit (units? cs) := by
  have hplane (hlow : c.toNat < 0x10000) :
      (unitsOf c).foldr withUnit (units? cs) = withUnit c.toNat (units? cs) := by
    rw [unitsOf, if_pos hlow]
    rfl
  have hshort (letter : Char) (h : shortEscape? letter = some c.toNat) (hlow : c.toNat < 0x10000) :
      units? ('\\' :: letter :: cs) = (unitsOf c).foldr withUnit (units? cs) :=
    (units?_shortEscape h cs).trans (hplane hlow).symm
  have hbounds := toNat_bounds c
  simp only [escapeChar, Bool.or_eq_true, Bool.and_eq_true, decide_eq_true_eq, beq_iff_eq]
  split_ifs with hself hline hreturn htab hback hpage hplain hlow
  · rcases hself with rfl | rfl <;> exact hshort _ rfl (by decide)
  · subst hline
    exact hshort 'n' rfl (by decide)
  · subst hreturn
    exact hshort 'r' rfl (by decide)
  · subst htab
    exact hshort 't' rfl (by decide)
  · exact hshort 'b' (by rw [hback]; rfl) (by omega)
  · exact hshort 'f' (by rw [hpage]; rfl) (by omega)
  · rw [hplane (by omega)]
    exact units?_plain (fun h => hself (.inl h)) (fun h => hself (.inr h)) hplain.1 cs
  · rw [hplane hlow, units?_unitEscape hlow]
  · rw [List.append_assoc, units?_unitEscape (by omega), units?_unitEscape (by omega), unitsOf,
      if_neg hlow]
    rfl

theorem foldr_withUnit (units more : List Nat) (left : List Char) :
    units.foldr withUnit (some (more, left)) = some (units ++ more, left) := by
  induction units with
  | nil => rfl
  | cons unit units ih =>
      rw [List.foldr_cons, ih]
      rfl

theorem units?_flatMap (cs left : List Char) :
    units? (cs.flatMap escapeChar ++ '"' :: left) = some (cs.flatMap unitsOf, left) := by
  induction cs with
  | nil => rw [List.flatMap_nil, List.nil_append, units?, List.flatMap_nil]
  | cons c cs ih =>
      rw [List.flatMap_cons, List.append_assoc, units?_escapeChar, ih, foldr_withUnit,
        List.flatMap_cons]

/-- **What is written up to the closing quote is read**, whatever stands behind it. -/
theorem text?_escaped (cs left : List Char) :
    text? (cs.flatMap escapeChar ++ '"' :: left) = some (cs, left) := by
  rw [text?, units?_flatMap]
  show ((paired (cs.flatMap unitsOf)).mapM char?).map _ = _
  rw [paired_flatMap, mapM_char?]
  rfl

/-! ### What is written -/

/-- A character is written in ASCII. -/
theorem escapeChar_ascii (c : Char) : ∀ x ∈ escapeChar c, x.toNat < 128 := by
  have hunit (n : Nat) : ∀ x ∈ unitEscape n, x.toNat < 128 := by
    refine List.forall_mem_cons.mpr ⟨by decide, List.forall_mem_cons.mpr ⟨by decide, ?_⟩⟩
    exact forall_mem_hexDigits (fun d hd => (digitChar_hex d hd).2.2) 4 n
  have hshort (letter : Char) (h : letter.toNat < 128) : ∀ x ∈ ['\\', letter], x.toNat < 128 := by
    simpa using h
  simp only [escapeChar, Bool.or_eq_true, Bool.and_eq_true, decide_eq_true_eq, beq_iff_eq]
  split_ifs with hself hline hreturn htab hback hpage hplain hlow
  · rcases hself with rfl | rfl <;> exact hshort _ (by decide)
  · exact hshort _ (by decide)
  · exact hshort _ (by decide)
  · exact hshort _ (by decide)
  · exact hshort _ (by decide)
  · exact hshort _ (by decide)
  · rw [List.forall_mem_singleton]
    omega
  · exact hunit _
  · exact List.forall_mem_append.mpr ⟨hunit _, hunit _⟩

end Switchboard.Json
