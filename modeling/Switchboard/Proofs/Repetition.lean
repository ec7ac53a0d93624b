import Mathlib.Data.Nat.Init
import Switchboard.Pattern.Basic

/-!
# Proofs — Repetition

Repetition counts that no pattern can have.  A count in braces is read digit by digit and judged
before anything else about the repetition is looked at.  If it is refused, the whole text is refused
for that reason, and this is not the reason that a broken rule of the syntax is.

* `Reader.before`: a reader that stands before some lexemes.
* `takeWhile_before`, `repetition?_before`: what is read there.
* `compile_count`: a count that is refused is why the text is no pattern.
* `compile_great`, `compile_long`: counts that are too great, or too long to be read.
-/

namespace Switchboard.Pattern

/-- A text without a backslash is cut into its characters. -/
theorem Input.ofChars_of_plain {cs : List Char} (h : ∀ c ∈ cs, c ≠ '\\') :
    Input.ofChars cs = ⟨cs.map .plain, false⟩ := by
  induction cs with
  | nil => rfl
  | cons c cs ih =>
      have hc : c ≠ '\\' := h c (.head _)
      rw [Input.ofChars, ih fun d hd => h d (.tail _ hd)]
      · rfl
      · exact fun hlast _ => hc hlast
      · exact fun _ _ hfirst _ => hc hfirst

/-- The reader before other lexemes, with no lone backslash at the end. -/
def Reader.before (r : Reader) (rest : List Lexeme) : Reader := { r with input := ⟨rest, false⟩ }

namespace Read

variable {α β : Type} {r r' : Reader} {rest : List Lexeme} {e : Error}

/-! ### One reading after another -/

theorem run_bind_ok {x : Read α} {a : α} (h : x.run r = .ok (a, r')) (next : α → Read β) :
    (x >>= next).run r = (next a).run r' := by
  rw [StateT.run_bind, h]
  rfl

theorem run_bind_error {x : Read α} (h : x.run r = .error e) (next : α → Read β) :
    (x >>= next).run r = .error e := by
  rw [StateT.run_bind, h]
  rfl

theorem run_get_bind (next : Reader → Read β) : (get >>= next).run r = (next r).run r := rfl

theorem seek_before (rest' : List Lexeme) :
    (seek rest).run (r.before rest') = .ok ((), r.before rest) := by
  rw [seek, run_get_bind]
  show (if (rest.isEmpty && false) = true then _ else _ : Read Unit).run _ = _
  rw [Bool.and_false]
  rfl

theorem accept_before (c : Char) :
    (accept c).run (r.before (.plain c :: rest)) = .ok (true, r.before rest) := by
  rw [accept, run_get_bind]
  show (if c = c then _ else _ : Read Bool).run _ = _
  rw [if_pos rfl, run_bind_ok (seek_before _)]
  rfl

theorem accept_before_of_ne {c d : Char} (h : c ≠ d) :
    (accept c).run (r.before (.plain d :: rest)) = .ok (false, r.before (.plain d :: rest)) := by
  rw [accept, run_get_bind]
  show (if c = d then _ else _ : Read Bool).run _ = _
  rw [if_neg h]
  rfl

/-- **Characters that pass are taken**, up to one that does not. -/
theorem takeWhile_before {p : Char → Bool} {cs : List Char} {stop : Char}
    (hcs : ∀ c ∈ cs, p c = true) (hstop : p stop = false) {count : Nat}
    (hcount : cs.length ≤ count) :
    (Read.takeWhile p count).run (r.before (cs.map .plain ++ .plain stop :: rest)) =
      .ok (cs, r.before (.plain stop :: rest)) := by
  induction cs generalizing count with
  | nil =>
      cases count with
      | zero => rfl
      | succ count =>
          rw [takeWhile, run_get_bind]
          show (if p stop then _ else _ : Read (List Char)).run _ = _
          rw [hstop]
          rfl
  | cons c cs ih =>
      obtain ⟨count, rfl⟩ := Nat.exists_eq_succ_of_ne_zero (Nat.ne_zero_of_lt hcount)
      have hmore := ih (fun d hd => hcs d (.tail _ hd)) (Nat.le_of_succ_le_succ hcount)
      rw [takeWhile, run_get_bind]
      show (if p c then _ else _ : Read (List Char)).run _ = _
      rw [hcs c (.head _), if_pos rfl]
      exact (run_bind_ok (seek_before _) _).trans (run_bind_ok hmore _)

end Read

/-! ### Counts -/

open Read

variable {digits : List Char} {e : Error}

/-- A count that is too great is refused. -/
theorem repetitionCount_great (hne : digits ≠ []) (hlength : digits.length ≤ 4300)
    (hgreat : repetitionBound ≤ Text.asciiNumber digits) (r : Reader) :
    (repetitionCount digits).run r = .error .repetitionTooLarge := by
  have hempty : digits.isEmpty = false := by simpa using hne
  simp only [repetitionCount, hempty, Nat.not_lt.mpr hlength, hgreat, if_true, if_false,
    Bool.false_eq_true]
  rfl

/-- A count that is too long to be read is refused. -/
theorem repetitionCount_long (hlong : 4300 < digits.length) (r : Reader) :
    (repetitionCount digits).run r = .error (.tooManyDigits digits.length) := by
  have hempty : digits.isEmpty = false := by
    cases digits with
    | nil => cases hlong
    | cons => rfl
  simp only [repetitionCount, hempty, hlong, if_true, if_false, Bool.false_eq_true]
  rfl

section

variable (hdigits : ∀ c ∈ digits, c.isDigit = true) (hne : digits ≠ [])
  (hcount : ∀ r, (repetitionCount digits).run r = .error e)

include hdigits hne hcount

/-- A repetition fails with its count. -/
theorem repetition?_before {fuel : Nat} (hfuel : digits.length ≤ fuel) (rest : List Lexeme)
    (r : Reader) :
    (repetition? fuel '\x7b').run (r.before (digits.map .plain ++ .plain '\x7d' :: rest)) =
      .error e := by
  have htake : (Read.takeWhile Char.isDigit fuel).run
      (r.before (digits.map .plain ++ .plain '\x7d' :: rest)) =
        .ok (digits, r.before (.plain '\x7d' :: rest)) := takeWhile_before hdigits rfl hfuel
  have hhead : (r.before (digits.map .plain ++ .plain '\x7d' :: rest)).input.rest.head? ≠
      some (.plain '\x7d') := by
    obtain ⟨d, ds, rfl⟩ := List.exists_cons_of_ne_nil hne
    intro h
    cases h
    cases hdigits _ (.head _)
  show (get >>= _ : Read _).run _ = _
  rw [run_get_bind]
  show (peek >>= _ : Read _).run _ = _
  rw [peek, bind_assoc, run_get_bind, pure_bind, if_neg hhead, run_bind_ok htake,
    run_bind_ok (accept_before_of_ne (by decide)), if_neg Bool.false_ne_true, pure_bind,
    run_bind_ok (accept_before _)]
  exact run_bind_error (hcount _) _

/-- A sequence that begins with a count in braces fails with it, whatever it would repeat. -/
theorem readSequence_before {fuel : Nat} (hfuel : digits.length ≤ fuel + 1) (isFirst : Bool)
    (r : Reader) :
    (readSequence (fuel + 1) false isFirst []).run
      (r.before (.plain '\x7b' :: (digits.map .plain ++ [.plain '\x7d']))) = .error e := by
  have hrepetition : (repetition? (fuel + 1) '\x7b').run
      (r.before (digits.map .plain ++ [.plain '\x7d'])) = .error e :=
    repetition?_before hdigits hne hcount hfuel [] r
  rw [readSequence, peek, bind_assoc, run_get_bind, pure_bind]
  show (take >>= _ : Read _).run _ = _
  rw [take, bind_assoc, run_get_bind]
  show ((seek _ >>= _) >>= _ : Read _).run _ = _
  rw [bind_assoc, run_bind_ok (seek_before _), pure_bind]
  show (repetition? (fuel + 1) '\x7b' >>= _ : Read _).run _ = _
  exact run_bind_error hrepetition _

/-- **A count that is refused is why the text is no pattern.** -/
theorem compile_count (flags : Flags) (hverbose : flags.verbose = false) :
    compile ("\x7b" ++ String.ofList digits ++ "\x7d") flags = .error e := by
  let text : List Char := '\x7b' :: (digits ++ ['\x7d'])
  have htext : ("\x7b" ++ String.ofList digits ++ "\x7d").toList = text := by simp [text]
  have hplain : ∀ c ∈ text, c ≠ '\\' := by
    intro c hc
    rcases List.mem_cons.mp hc with rfl | hc
    · decide
    · rcases List.mem_append.mp hc with hc | hc
      · rintro rfl
        cases hdigits _ hc
      · rw [List.mem_singleton.mp hc]
        decide
  have hinput : Input.ofChars text =
      ⟨.plain '\x7b' :: (digits.map .plain ++ [.plain '\x7d']), false⟩ := by
    rw [Input.ofChars_of_plain hplain]
    simp [text]
  have hlength : text.length = digits.length + 2 := by simp [text]
  let start : Reader := { input := ⟨[], false⟩, flags }
  have hread : (readChoice (4 * (digits.length + 2) + 8) false true).run
      (start.before (.plain '\x7b' :: (digits.map .plain ++ [.plain '\x7d']))) = .error e := by
    rw [readChoice, readSequences]
    exact run_bind_error
      (run_bind_error (readSequence_before hdigits hne hcount (by omega) _ _) _) _
  have hparse : parse flags text = .error e := by
    rw [parse, hinput, hlength, hverbose]
    show Except.bind ((readChoice _ false true).run (start.before _)) _ = _
    rw [hread]
    rfl
  rw [compile, htext, hparse]
  rfl

end

section

variable (hdigits : ∀ c ∈ digits, c.isDigit = true) (flags : Flags)
  (hverbose : flags.verbose = false)

include hdigits hverbose

/-- **A count beyond the greatest one** is no rule of the syntax that is broken. -/
theorem compile_great (hlength : digits.length ≤ 4300)
    (hgreat : repetitionBound ≤ Text.asciiNumber digits) :
    compile ("\x7b" ++ String.ofList digits ++ "\x7d") flags = .error .repetitionTooLarge := by
  have hne : digits ≠ [] := by
    rintro rfl
    exact absurd hgreat (by decide)
  exact compile_count hdigits hne (repetitionCount_great hne hlength hgreat) flags hverbose

/-- **A count of more digits than are read** is none either. -/
theorem compile_long (hlong : 4300 < digits.length) :
    compile ("\x7b" ++ String.ofList digits ++ "\x7d") flags =
      .error (.tooManyDigits digits.length) := by
  have hne : digits ≠ [] := by
    rintro rfl
    cases hlong
  exact compile_count hdigits hne (repetitionCount_long hlong) flags hverbose

end

end Switchboard.Pattern
