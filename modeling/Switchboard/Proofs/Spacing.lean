import Switchboard.Proofs.Agreement
import Switchboard.Proofs.Cutting
import Switchboard.Proofs.Ruling

/-!
# Proofs — Spacing

How many spaces stand between the tokens of a text does not matter to arguments that read tokens.
To tidy a text is to leave one space of every run of spaces, and none at its end.  Tidying commutes
with all that is done to a text on the way: with taking its first token, with trimming what is left,
and so with reading an argument, a group, and a grammar.

* `Text.squeeze`, `Text.tidy`: one space for many.
* `Text.trim_tidy`, `Text.splitToken_tidy`: tidying commutes with trimming and with splitting.
* `Argument.Tokens`: texts, numbers, and groups of them.
* `Argument.Tokens.validate_tidy`, `Walk.along_tidy`: what an argument and what a grammar read from
  a tidied text.
* `evaluate_tidy`: a text is evaluated as it is when it is tidied.
-/

namespace Switchboard

namespace Text

/-- The text with one space in the place of every run of spaces. -/
def squeeze : List Char → List Char
  | [] => []
  | c :: cs => if c = ' ' ∧ cs.head? = some ' ' then squeeze cs else c :: squeeze cs

/-- The text with one space in the place of every run of spaces, and with none at its end. -/
def tidy (cs : List Char) : List Char :=
  dropEndWhile (· == ' ') (squeeze cs)

theorem squeeze_cons_of_ne {c : Char} (h : c ≠ ' ') (cs : List Char) :
    squeeze (c :: cs) = c :: squeeze cs := by
  simp [squeeze, h]

theorem squeeze_space (cs : List Char) :
    squeeze (' ' :: cs) = ' ' :: squeeze (cs.dropWhile (· == ' ')) := by
  induction cs with
  | nil => rfl
  | cons c cs ih =>
      by_cases h : c = ' '
      · subst h
        rw [squeeze, if_pos ⟨rfl, rfl⟩, ih]
        rfl
      · have hdrop : (c :: cs).dropWhile (· == ' ') = c :: cs := by simp [h]
        have hhead : (c :: cs).head? ≠ some ' ' := by simpa using h
        rw [hdrop, squeeze, if_neg fun hboth => hhead hboth.2]

/-- A token is squeezed to itself. -/
theorem squeeze_append_of_token {token : List Char} (h : ∀ c ∈ token, c ≠ ' ') (cs : List Char) :
    squeeze (token ++ cs) = token ++ squeeze cs := by
  induction token with
  | nil => rfl
  | cons c token ih =>
      rw [List.cons_append, squeeze_cons_of_ne (h c (.head _)), ih fun d hd => h d (.tail _ hd)]
      rfl

section

variable {p : Char → Bool} (hp : p ' ' = true)

include hp

theorem squeeze_dropWhile (cs : List Char) :
    squeeze (cs.dropWhile p) = (squeeze cs).dropWhile p := by
  induction cs with
  | nil => rfl
  | cons c cs ih =>
      by_cases hc : p c = true
      · rw [List.dropWhile_cons_of_pos hc, ih, squeeze]
        split
        · rfl
        · rw [List.dropWhile_cons_of_pos hc]
      · have hne : c ≠ ' ' := by
          rintro rfl
          exact hc hp
        rw [List.dropWhile_cons_of_neg hc, squeeze_cons_of_ne hne, List.dropWhile_cons_of_neg hc]

end

/-- A character is added to the end unless it is one space more. -/
theorem squeeze_concat (cs : List Char) (c : Char) :
    squeeze (cs ++ [c]) =
      if c = ' ' ∧ cs.getLast? = some ' ' then squeeze cs else squeeze cs ++ [c] := by
  induction cs with
  | nil => simp [squeeze]
  | cons d cs ih =>
      cases cs with
      | nil =>
          by_cases hd : d = ' ' <;> by_cases hc : c = ' ' <;> simp [squeeze, hd, hc]
      | cons e cs =>
          -- With a second character, neither test sees a difference.
          have hhead : (e :: cs ++ [c]).head? = (e :: cs).head? := rfl
          have hlast : (d :: e :: cs).getLast? = (e :: cs).getLast? := List.getLast?_cons_cons
          rw [List.cons_append, squeeze, hhead, ih, hlast, squeeze.eq_2 d]
          by_cases hfirst : d = ' ' ∧ (e :: cs).head? = some ' '
          · rw [if_pos hfirst, if_pos hfirst]
          · rw [if_neg hfirst, if_neg hfirst]
            split <;> rfl

theorem squeeze_reverse (cs : List Char) : squeeze cs.reverse = (squeeze cs).reverse := by
  induction cs with
  | nil => rfl
  | cons c cs ih =>
      rw [List.reverse_cons, squeeze_concat, List.getLast?_reverse, ih, squeeze]
      split
      · rfl
      · rw [List.reverse_cons]

theorem squeeze_dropEndWhile {p : Char → Bool} (hp : p ' ' = true) (cs : List Char) :
    squeeze (dropEndWhile p cs) = dropEndWhile p (squeeze cs) := by
  rw [dropEndWhile, squeeze_reverse, squeeze_dropWhile hp, squeeze_reverse]
  rfl

theorem squeeze_trim (cs : List Char) : squeeze (trim cs) = trim (squeeze cs) := by
  rw [trim, trimWhile, squeeze_dropEndWhile rfl, squeeze_dropWhile rfl]
  rfl

/-- **Tidying commutes with trimming.** -/
theorem trim_tidy (cs : List Char) : trim (tidy cs) = tidy (trim cs) := by
  have hlast : ∀ c ∈ (trim (squeeze cs)).getLast?, (c == ' ') = false := by
    intro c hc
    have hblank := (trimWhile_trimmed isBlank (squeeze cs)).last c hc
    by_contra hc'
    rw [isBlank_of_space c (by simpa using hc')] at hblank
    cases hblank
  calc trim (tidy cs) = trim (squeeze cs) := trimWhile_dropEndWhile isBlank_of_space _
    _ = tidy (trim cs) := by rw [tidy, squeeze_trim, dropEndWhile_of_last hlast]

/-- A token is tidied to itself. -/
theorem tidy_append_of_token {token : List Char} (h : ∀ c ∈ token, c ≠ ' ') (cs : List Char) :
    tidy (token ++ cs) = token ++ tidy cs := by
  have hlast : ∀ c ∈ token.getLast?, (c == ' ') = false := fun c hc => by
    simpa using h c (List.mem_of_getLast? hc)
  rw [tidy, squeeze_append_of_token h, dropEndWhile_append_of_last hlast]
  rfl

/-- A space in front is kept if anything but spaces follows it, and is then the only one. -/
theorem tidy_space (cs : List Char) :
    tidy (' ' :: cs) =
      if tidy (cs.dropWhile (· == ' ')) = [] then []
      else ' ' :: tidy (cs.dropWhile (· == ' ')) := by
  -- The end is cut off behind the space in front, which may then be all that is left.
  obtain ⟨back, hback, hall⟩ :=
    exists_dropEndWhile (· == ' ') (squeeze (cs.dropWhile (· == ' ')))
  have hcut : tidy (' ' :: cs) =
      dropEndWhile (· == ' ') (' ' :: tidy (cs.dropWhile (· == ' '))) := by
    conv_lhs => rw [tidy, squeeze_space, hback, ← List.cons_append, dropEndWhile_append hall]
    rfl
  rw [hcut]
  split
  · rename_i hnil
    rw [hnil]
    rfl
  · rename_i hne
    refine dropEndWhile_of_last fun c hc => ?_
    obtain ⟨d, rest, hcons⟩ := List.exists_cons_of_ne_nil hne
    rw [hcons, List.getLast?_cons_cons, ← hcons] at hc
    exact of_mem_getLast?_dropEndWhile (p := (· == ' ')) hc

/-- **The first token of a tidied text** is that of the text, and what follows it is tidied, without
the spaces in front. -/
theorem splitToken_tidy (cs : List Char) :
    splitToken (tidy cs) =
      ((splitToken cs).1, tidy ((splitToken cs).2.dropWhile (· == ' '))) := by
  obtain ⟨token, htoken, rfl | ⟨rest, rfl⟩⟩ := exists_token cs
  · have htidy : tidy cs = cs := by
      simpa [tidy, squeeze, dropEndWhile] using tidy_append_of_token htoken []
    rw [htidy, splitToken_token htoken]
    rfl
  · rw [tidy_append_of_token htoken, tidy_space, splitToken_append htoken]
    split
    · rename_i hnil
      rw [List.append_nil, splitToken_token htoken, hnil]
    · rw [splitToken_append htoken]

/-- Spaces in front make no difference once the text is trimmed. -/
theorem trim_tidy_dropWhile (cs : List Char) :
    trim (tidy (cs.dropWhile (· == ' '))) = tidy (trim cs) := by
  rw [trim_tidy]
  exact congrArg tidy (trimWhile_dropWhile isBlank_of_space cs)

/-- A text that does not begin with a space is not tidied away. -/
theorem tidy_eq_nil_iff {cs : List Char} (h : cs.head? ≠ some ' ') : tidy cs = [] ↔ cs = [] := by
  cases cs with
  | nil => exact iff_of_true rfl rfl
  | cons c cs =>
      have hc : ∀ d ∈ [c], d ≠ ' ' := by simpa using h
      have htidy : tidy (c :: cs) = c :: tidy cs := tidy_append_of_token hc cs
      rw [htidy]
      simp

/-- A trimmed text does not begin with a space. -/
theorem head?_trim (cs : List Char) : (trim cs).head? ≠ some ' ' := by
  intro hspace
  have h := (trimWhile_trimmed isBlank cs).head ' ' hspace
  cases h

end Text

/-! ### Reading a tidied text -/

/-- An argument that reads nothing but tokens: a text, a number, or a group of such arguments. -/
inductive Argument.Tokens : Argument → Prop where
  | string (label : Label) (rule : TextRule) : Tokens (.string label rule)
  | number (label : Label) (rule : NumberRule) : Tokens (.number label rule)
  | group (label : Label) (combinator : Combinator) {members : List Argument}
      (h : ∀ a ∈ members, Tokens a) : Tokens (.group label combinator members)

/-- What is read from a text, and what is read from the tidied text: the same value, with a rest
that is tidied as well once it is trimmed, or the same refusal. -/
inductive Reading.Tidied : Reading.Result → Reading.Result → Prop where
  | accepted (value : Value) {left left' : List Char}
      (h : Text.trim left' = Text.tidy (Text.trim left)) :
      Tidied (.ok (value, left)) (.ok (value, left'))
  | refused (e : Refusal) : Tidied (.error e) (.error e)

namespace Argument

section

variable {arguments : List Argument}
  (h : ∀ a ∈ arguments, ∀ cs, Reading.Tidied (a.validate cs) (a.validate (Text.tidy cs)))

include h

/-- Arguments that read a tidied text as the text do so one after the other. -/
theorem validateAll_tidy (cs : List Char) (record : Record) :
    validateAll arguments (Text.tidy cs) record =
      (validateAll arguments cs record).map fun (record, left) => (record, Text.tidy left) := by
  induction arguments generalizing cs record with
  | nil => rfl
  | cons a arguments ih =>
      have ha := h a (.head _) cs
      rw [validateAll, validateAll]
      revert ha
      generalize a.validate cs = read, a.validate (Text.tidy cs) = read'
      rintro (⟨value, hleft⟩ | e)
      · -- The rests are trimmed before the next member reads, and then one is the other tidied.
        simp only [hleft]
        exact ih (fun b hb => h b (.tail _ hb)) _ _
      · rfl

/-- Arguments that read a tidied text as the text do so as alternatives. -/
theorem validateAny_tidy (cs : List Char) :
    validateAny arguments (Text.tidy cs) =
      (validateAny arguments cs).map
        (Option.map fun (record, left) => (record, Text.tidy left)) := by
  induction arguments with
  | nil => rfl
  | cons a arguments ih =>
      have ha := h a (.head _) cs
      rw [validateAny, validateAny]
      revert ha
      generalize a.validate cs = read, a.validate (Text.tidy cs) = read'
      rintro (⟨value, hleft⟩ | e)
      · simp only [hleft]
        rfl
      · cases e with
        | unusable => rfl
        | rejected r => exact ih fun b hb => h b (.tail _ hb)

end

/-- **Arguments that read tokens read a tidied text as they read the text.** -/
theorem Tokens.validate_tidy {a : Argument} (h : a.Tokens) (cs : List Char) :
    Reading.Tidied (a.validate cs) (a.validate (Text.tidy cs)) := by
  induction h generalizing cs with
  | string label rule =>
      rw [validate, validate, Text.splitToken_tidy]
      cases hfault : rule.fault? (rule.forced (Text.splitToken cs).1) with
      | none =>
          simp only [hfault]
          split
          · exact .refused _
          · exact .accepted _ (Text.trim_tidy_dropWhile _)
      | some reason =>
          simp only [hfault]
          exact .refused _
  | number label rule =>
      rw [validate, validate, Text.splitToken_tidy]
      cases hread : Number.read? (Text.splitToken cs).1 with
      | none =>
          simp only [hread]
          exact .refused _
      | some n =>
          cases hfault : rule.fault? n with
          | none =>
              simp only [hread, hfault]
              exact .accepted _ (Text.trim_tidy_dropWhile _)
          | some reason =>
              simp only [hread, hfault]
              exact .refused _
  | @group label combinator members _ ih =>
      by_cases hne : members = []
      · subst hne
        rw [validate_group_nil, validate_group_nil]
        exact .refused _
      · cases combinator with
        | and =>
            rw [validate_and hne, validate_and hne, validateAll_tidy ih]
            cases validateAll members cs [] with
            | error e => exact .refused e
            | ok read => exact .accepted _ (Text.trim_tidy _)
        | or =>
            rw [validate_or hne, validate_or hne, validateAny_tidy ih]
            cases validateAny members cs with
            | error e => exact .refused e
            | ok found =>
                cases found with
                | none => exact .refused _
                | some read => exact .accepted _ (Text.trim_tidy _)

end Argument

/-! ### Walking over a tidied text -/

namespace Walk

/-- The walk as it is when the text is tidied. -/
def tidied (w : Walk) : Walk :=
  { w with left := Text.tidy w.left }

theorem step_tidied {a : Argument} (h : a.Tokens) (w : Walk) :
    w.tidied.step a = (w.step a).map tidied := by
  have ha := h.validate_tidy w.left
  cases hw : w.hard with
  | some found =>
      have hended : w.hard.isSome = true := by simp [hw]
      have hended' : w.tidied.hard.isSome = true := hended
      rw [step, step, if_pos hended, if_pos hended']
      rfl
  | none =>
      have hw' : w.tidied.hard = none := hw
      generalize hread : a.validate w.left = read at ha
      generalize hread' : a.validate (Text.tidy w.left) = read' at ha
      cases ha with
      | accepted value hleft =>
          rw [step_of_accepts hw hread, step_of_accepts hw' hread', hleft]
          rfl
      | refused e =>
          cases e with
          | unusable => simp [step, hw, tidied, hread, hread', Except.map]
          | rejected r =>
              cases ho : a.isOptional with
              | true =>
                  rw [step_of_leftOut hw hread ho, step_of_leftOut hw' hread' ho]
                  rfl
              | false =>
                  rw [step_of_rejects hw hread ho, step_of_rejects hw' hread' ho]
                  rfl

theorem steps_tidied {arguments : List Argument} (h : ∀ a ∈ arguments, a.Tokens) (w : Walk) :
    w.tidied.steps arguments = (w.steps arguments).map tidied := by
  induction arguments generalizing w with
  | nil => rfl
  | cons a arguments ih =>
      rw [steps, steps, step_tidied (h a (.head _)) w]
      cases w.step a with
      | error e => rfl
      | ok w => exact ih (fun b hb => h b (.tail _ hb)) w

/-- **Arguments that read tokens walk over a tidied text as over the text.** -/
theorem along_tidy {grammar : List Argument} (h : ∀ a ∈ grammar, a.Tokens) (text : List Char) :
    along grammar (Text.tidy text) = (along grammar text).map tidied :=
  steps_tidied h { left := text }

/-- What a walk leaves of a text that does not begin with a space does not begin with one: it is
trimmed, or it is as it was. -/
theorem head?_step {a : Argument} {w w' : Walk} (h : w.step a = .ok w')
    (hleft : w.left.head? ≠ some ' ') : w'.left.head? ≠ some ' ' := by
  unfold step at h
  split at h
  · cases h
    exact hleft
  · split at h
    · cases h
      exact Text.head?_trim _
    · split at h <;> cases h <;> exact hleft
    · cases h

theorem head?_steps {arguments : List Argument} {w w' : Walk} (h : w.steps arguments = .ok w')
    (hleft : w.left.head? ≠ some ' ') : w'.left.head? ≠ some ' ' := by
  induction arguments generalizing w with
  | nil =>
      cases h
      exact hleft
  | cons a arguments ih =>
      rw [steps] at h
      cases hstep : w.step a with
      | error e =>
          rw [hstep] at h
          cases h
      | ok w₁ =>
          rw [hstep] at h
          exact ih h (head?_step hstep hleft)

/-- Tidying leaves something of what is left, if anything is left. -/
theorem verdict_tidied {w : Walk} (h : w.left.head? ≠ some ' ') (tolerant : Bool) :
    w.tidied.verdict tolerant = w.verdict tolerant := by
  have hempty : (Text.tidy w.left).isEmpty = w.left.isEmpty := by
    rw [Bool.eq_iff_iff, List.isEmpty_iff, List.isEmpty_iff, Text.tidy_eq_nil_iff h]
  simp only [verdict, tidied, hempty]

end Walk

/-! ### The evaluation of a tidied text -/

namespace Setup

variable {σ : Type}

/-- **A text is evaluated as it is when it is tidied.**  Let the arguments of a command read nothing
but tokens, and let the text not begin with a space.  With one space in the place of every run of
spaces and none at its end, the text is evaluated to the same outcome: to the same record, and to
the same fault or none.  If patterns are for texts and the formatter never raises, there is an
outcome. -/
theorem evaluate_tidy (s : Setup σ) {id : CommandId} {c : Command} {u : World σ}
    (hc : u.registry.command? id = some c) (hgrammar : ∀ a ∈ u.registry.grammar c, a.Tokens)
    {text : List Char} (htext : text.head? ≠ some ' ') :
    (s.evaluate id (Text.tidy text)).result u = (s.evaluate id text).result u ∧
      (s.Fluent → (∀ a ∈ u.registry.grammar c, a.Concrete) →
        ∃ o, (s.evaluate id text).result u = .ok o) := by
  have htidy := Walk.along_tidy hgrammar text
  refine ⟨?_, fun h hconcrete => ?_⟩
  · cases hwalk : Walk.along (u.registry.grammar c) text with
    | error e =>
        rw [hwalk] at htidy
        rw [s.evaluate_of_refusal hc hwalk, s.evaluate_of_refusal hc htidy]
    | ok w =>
        rw [hwalk] at htidy
        have hleft : w.left.head? ≠ some ' ' := Walk.head?_steps hwalk htext
        exact s.evaluate_congr hc htidy hwalk rfl (Walk.verdict_tidied hleft _)
  · obtain ⟨verdict, hruling⟩ := exists_ruling hconcrete c.tolerant text
    obtain ⟨o, ho, -⟩ := evaluate_of_ruling h hc hruling
    exact ⟨o, ho⟩

/-- A number that may be left out, and then that number, or a word and a number: a line in which the
first number is left out and a word is too much has the same fault however it is spaced. -/
theorem evaluate_tidy_rehearsed :
    let s : Setup Rehearsal.Cast := { host := Rehearsal.host fun _ => "" }
    let count : Argument := .number { name := "count", need := .optional (some (.int 1)) } {}
    let named : Argument := .group { name := "named" } .and
      [.string { name := "word" } { maximum := some 3 }, .number { name := "n" } {}]
    let either : Argument := .group { name := "either" } .or [count, named]
    let u : World Rehearsal.Cast := {
      registry := {
        commands := [{ name := "ale", grammar := [0, 1], standing := .listed }]
        arguments := [count, either] }
      memory := {} }
    let text := "ale   5  bob  ".toList
    (∀ a ∈ [count, either], a.Tokens) ∧ text.head? ≠ some ' ' ∧
      Text.tidy text = "ale 5 bob".toList ∧
      ∃ o f, (s.evaluate 0 text).result u = .ok o ∧
        (s.evaluate 0 (Text.tidy text)).result u = .ok o ∧ o.fault = some f ∧
        f.kind = .optionalArgument ∧ f.options.argument = some count := by
  intro s count named either u text
  have hfluent : s.Fluent := fun _ => .pure _
  have htokens : ∀ a ∈ [count, either], a.Tokens := by
    have hcount : count.Tokens := .number _ _
    have hnamed : named.Tokens := by
      refine .group _ _ fun a ha => ?_
      rcases List.mem_pair.mp ha with rfl | rfl
      · exact .string _ _
      · exact .number _ _
    have heither : either.Tokens := by
      refine .group _ _ fun a ha => ?_
      rcases List.mem_pair.mp ha with rfl | rfl
      · exact hcount
      · exact hnamed
    intro a ha
    rcases List.mem_pair.mp ha with rfl | rfl
    · exact hcount
    · exact heither
  have hconcrete : ∀ a ∈ [count, either], a.Concrete := by
    have hcount : count.Concrete := .number _ _
    have hnamed : named.Concrete := .group _ _ (List.forall_mem_cons.mpr
      ⟨.string _ rfl, List.forall_mem_singleton.mpr (.number _ _)⟩)
    have heither : either.Concrete := .group _ _ (List.forall_mem_cons.mpr
      ⟨hcount, List.forall_mem_singleton.mpr hnamed⟩)
    exact List.forall_mem_cons.mpr ⟨hcount, List.forall_mem_singleton.mpr heither⟩
  have hhead : text.head? ≠ some ' ' := by decide
  have hknown : u.registry.command? 0 =
      some { name := "ale", grammar := [0, 1], standing := .listed } := rfl
  have hcount : count.validate text = .error (.rejected ⟨count, .notNumber "ale"⟩) := rfl
  have hnamed : named.validate text =
      .ok (Record.toValue [("word", .text "ale"), ("n", .int 5)], "bob".toList) := rfl
  have heither : ∃ value, either.validate text = .ok (value, "bob".toList) := by
    rw [Argument.validate_or (List.cons_ne_nil _ _), Argument.validateAny, hcount]
    simp only [Argument.validateAny, hnamed]
    exact ⟨_, rfl⟩
  obtain ⟨value, hvalue⟩ := heither
  have hruling : Ruling [count, either] false text (.optional count ⟨count, .notNumber "ale"⟩) :=
    .optional (.leftOut hcount rfl (.accepted hvalue (.nil _))) (List.cons_ne_nil _ _)
  obtain ⟨hsame, hreturns⟩ := evaluate_tidy s hknown htokens hhead
  obtain ⟨o, ho⟩ := hreturns hfluent hconcrete
  obtain ⟨o', ho', -, htells⟩ := evaluate_of_ruling hfluent hknown hruling
  cases ho.symm.trans ho'
  generalize hfault : o.fault = fault at htells
  cases htells with
  | optional hkind _ hargument =>
      exact ⟨htokens, hhead, rfl, o, _, ho, hsame.trans ho, hfault, hkind, hargument⟩

end Setup

end Switchboard
