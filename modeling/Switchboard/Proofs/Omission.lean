import Switchboard.Proofs.Cutting
import Switchboard.Proofs.Resolution

/-!
# Proofs — Omission

One more argument at the end of a grammar, which may be left out.  A line that the grammar took
before leaves nothing for it, and from nothing an argument either reads a value and leaves nothing,
or is left out, which is held against nobody while no text is left over.

* `Argument.Concrete.leaves_nil`: what accepts the empty text leaves the empty text.
* `Walk.along_concat_of_spent`: a walk that has left nothing goes through one more argument.
* `evaluate_append_optional`: a line that was taken is still taken, and the record has one more name.
* `Registry.grammar_register`: an argument that is registered is put at the end of the grammar.
-/

namespace Switchboard

/-! ### Reading from nothing -/

namespace Argument

/-- Arguments that leave nothing of nothing do so one after the other. -/
theorem validateAll_nil {arguments : List Argument}
    (h : ∀ a ∈ arguments, ∀ value left, a.validate [] = .ok (value, left) → left = [])
    {record record' : Record} {left : List Char}
    (hread : validateAll arguments [] record = .ok (record', left)) : left = [] := by
  induction arguments generalizing record with
  | nil =>
      rw [validateAll] at hread
      cases hread
      rfl
  | cons a arguments ih =>
      rw [validateAll] at hread
      cases ha : a.validate [] with
      | error e =>
          rw [ha] at hread
          cases hread
      | ok read =>
          obtain ⟨value, rest⟩ := read
          obtain rfl := h a (.head _) value rest ha
          rw [ha] at hread
          exact ih (fun b hb => h b (.tail _ hb)) hread

/-- Arguments that leave nothing of nothing do so as alternatives. -/
theorem validateAny_nil {arguments : List Argument}
    (h : ∀ a ∈ arguments, ∀ value left, a.validate [] = .ok (value, left) → left = [])
    {record : Record} {left : List Char}
    (hread : validateAny arguments [] = .ok (some (record, left))) : left = [] := by
  induction arguments with
  | nil => cases hread
  | cons a arguments ih =>
      rw [validateAny] at hread
      cases ha : a.validate [] with
      | ok read =>
          obtain ⟨value, rest⟩ := read
          obtain rfl := h a (.head _) value rest ha
          rw [ha] at hread
          cases hread
          rfl
      | error e =>
          rw [ha] at hread
          cases e with
          | unusable => cases hread
          | rejected r => exact ih (fun b hb => h b (.tail _ hb)) hread

/-- **What accepts the empty text leaves the empty text.** -/
theorem Concrete.leaves_nil {a : Argument} (h : a.Concrete) {value : Value} {left : List Char}
    (hread : a.validate [] = .ok (value, left)) : left = [] := by
  have htoken : Text.splitToken [] = ([], []) := rfl
  induction h generalizing value left with
  | string label h =>
      rw [string_accepts, htoken] at hread
      exact hread.2.2
  | number label rule =>
      obtain ⟨_, -, -, -, hleft⟩ := number_accepts.mp hread
      rwa [htoken] at hleft
  | client label =>
      obtain ⟨_, hsplit, -⟩ := client_accepts.mp hread
      cases hsplit
  | rest label h => exact (rest_accepts.mp hread).2.2
  | @group label combinator members _ ih =>
      have hmembers : ∀ a ∈ members, ∀ value left, a.validate [] = .ok (value, left) → left = [] :=
        fun a ha _ _ hread => ih a ha hread
      by_cases hne : members = []
      · subst hne
        rw [validate_group_nil] at hread
        cases hread
      · cases combinator with
        | and =>
            rw [validate_and hne] at hread
            split at hread <;> cases hread
            rename_i hall
            exact validateAll_nil hmembers hall
        | or =>
            rw [validate_or hne] at hread
            split at hread <;> cases hread
            rename_i hany
            exact validateAny_nil hmembers hany

end Argument

/-! ### A walk that has left nothing -/

namespace Walk

/-- **A walk that has left nothing goes through one more argument** that may be left out, and leaves
nothing. -/
theorem along_concat_of_spent {grammar : List Argument} {text : List Char} {w : Walk}
    (hwalk : along grammar text = .ok w) (hhard : w.hard = none) (hleft : w.left = [])
    {a : Argument} (ha : a.Concrete) (ho : a.isOptional = true) :
    ∃ w', along (grammar ++ [a]) text = .ok w' ∧ w'.hard = none ∧ w'.left = [] ∧
      w'.record = w.record.put a.name (a.resolved []) := by
  have hsteps : along (grammar ++ [a]) text = w.steps [a] := by
    rw [along, steps_append, show steps { left := text } grammar = .ok w from hwalk]
  have hone : ∀ w', w.step a = .ok w' → w.steps [a] = .ok w' := by
    intro w' hstep
    rw [steps, hstep]
    rfl
  rw [hsteps]
  cases hread : a.validate [] with
  | ok read =>
      obtain ⟨value, rest⟩ := read
      obtain rfl := ha.leaves_nil hread
      have hreads : a.validate w.left = .ok (value, []) := by rw [hleft, hread]
      refine ⟨_, hone _ (step_of_accepts hhard hreads), hhard, rfl, ?_⟩
      rw [Argument.resolved_of_accepts hread]
  | error e =>
      cases e with
      | unusable obstacle => exact absurd hread (ha.usable [] obstacle)
      | rejected r =>
          have hrejects : a.validate w.left = .error (.rejected r) := by rw [hleft, hread]
          refine ⟨_, hone _ (step_of_leftOut hhard hrejects ho), hhard, hleft, ?_⟩
          rw [Argument.resolved_of_rejects hread]

end Walk

/-! ### The evaluation of a longer grammar -/

namespace Setup

variable {σ : Type}

/-- **An argument that may be left out, at the end of a grammar, breaks no line.**  Let a command that
tolerates no text beyond its arguments be evaluated without a fault, and let another one, of whatever
world, have one argument more at the end, which may be left out.  On the same text it is evaluated
without a fault as well.  Its record is the record of the first one, with the value that the argument
reads from the empty text under the name of the argument, or with what stands in its place. -/
theorem evaluate_append_optional (s : Setup σ) {id id' : CommandId} {c c' : Command}
    {u v : World σ} (hc : u.registry.command? id = some c) (hstrict : c.tolerant = false)
    (hc' : v.registry.command? id' = some c') {a : Argument} (ha : a.Concrete)
    (ho : a.isOptional = true)
    (hgrammar : v.registry.grammar c' = u.registry.grammar c ++ [a]) {text : List Char}
    {o : Outcome} (h : (s.evaluate id text).result u = .ok o) (hready : o.fault = none) :
    (s.evaluate id' text).result v =
      .ok { command := some id', record := o.record.put a.name (a.resolved []) } := by
  obtain ⟨d, w, hd, hwalk, hfault, houtcome⟩ := s.evaluate_eq_ok h
  cases hc.symm.trans hd
  have hverdict := (tells_of_verdictFault hfault).eq_none_iff.mp hready
  obtain ⟨hhard, hleft⟩ := Walk.verdict_eq_ready.mp hverdict
  have hspent : w.left = [] := hleft.resolve_right fun hboth => by simp [hstrict] at hboth
  have hrecord : o.record = w.record := by rw [houtcome]
  obtain ⟨w', hwalk', hhard', hleft', hrecord'⟩ :=
    Walk.along_concat_of_spent hwalk hhard hspent ha ho
  rw [← hgrammar] at hwalk'
  rw [s.evaluate_of_ready hc' hwalk' (Walk.verdict_eq_ready.mpr ⟨hhard', .inl hleft'⟩), hrecord',
    hrecord]

end Setup

/-! ### Registering an argument -/

/-- **An argument that is registered is put at the end of the grammar** of its command, which stays
as it was in all other respects. -/
theorem Registry.grammar_register {r : Registry} {id : CommandId} {c : Command}
    (hc : r.command? id = some c) (halive : c.isDestroyed = false)
    (hknown : ∀ n ∈ c.grammar, n < r.arguments.length) (a : Argument) :
    let r' := (r.apply (.register id (some a))).registry
    let c' := { c with grammar := c.grammar ++ [r.arguments.length] }
    r'.command? id = some c' ∧ r'.grammar c' = r.grammar c ++ [a] := by
  intro r' c'
  have hdeclare : c.declare (.argument (some r.arguments.length)) = .ok c' := by
    simp [Command.declare, halive, c']
  have hregister : r' = { r.update id fun _ => c' with arguments := r.arguments ++ [a] } := by
    simp only [r', apply, register, declare, Option.map_some, hc, hdeclare]
  have hcommands : r'.commands = r.commands.set id c' := by
    rw [hregister]
    exact update_commands hc _
  have harguments : r'.arguments = r.arguments ++ [a] := by rw [hregister]
  constructor
  · rw [command?_of_set hc hcommands, if_pos rfl]
  · have hold : ∀ n ∈ c.grammar, r'.argument? n = r.argument? n := by
      intro n hn
      rw [argument?, argument?, harguments, List.getElem?_append_left (hknown n hn)]
    have hnew : r'.argument? r.arguments.length = some a := by
      rw [argument?, harguments, List.getElem?_concat_length]
    rw [grammar, grammar, List.filterMap_append, List.filterMap_congr hold]
    simp [hnew]

namespace Setup

/-- A number that is registered after a word, and may be left out with a fallback: a line of one word
is taken as before, and the record has the fallback as well. -/
theorem evaluate_append_optional_rehearsed :
    let s : Setup Rehearsal.Cast := { host := Rehearsal.host fun _ => "" }
    let word : Argument := .string { name := "word" } {}
    let count : Argument := .number { name := "n", need := .optional (some (.int 1)) } {}
    let r : Registry := .applyAll {} [.create (.text "ale") .unset, .register 0 (some word)]
    let u : World Rehearsal.Cast := { registry := r, memory := {} }
    let v : World Rehearsal.Cast :=
      { u with registry := (r.apply (.register 0 (some count))).registry }
    let text := "bob".toList
    (s.evaluate 0 text).result u =
        .ok { command := some 0, record := [("word", .text "bob")] } ∧
      (s.evaluate 0 text).result v =
        .ok { command := some 0, record := [("word", .text "bob"), ("n", .int 1)] } := by
  intro s word count r u v text
  have hc : r.command? 0 = some { name := "ale", grammar := [0], standing := .listed } := rfl
  obtain ⟨hc', hgrammar⟩ := Registry.grammar_register hc rfl (by decide) count
  have hready : (s.evaluate 0 text).result u =
      .ok { command := some 0, record := [("word", .text "bob")] } :=
    s.evaluate_of_ready (w := { record := [("word", .text "bob")], left := [] }) hc rfl rfl
  have hcount : count.Concrete := .number _ _
  have htaken :=
    evaluate_append_optional (v := v) s hc rfl hc' hcount rfl hgrammar hready rfl
  exact ⟨hready, htaken⟩

end Setup

end Switchboard
