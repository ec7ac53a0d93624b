import Switchboard.Proofs.Ruling

/-!
# Proofs — Conjunction

A group that joins its members by *and* reads a text as the grammar of a command does.  The grammar
keeps its record and goes on after an argument that was left out, the group gives its record away
and ends at the first rejection; where every argument is required there is no difference.

* `Walk.steps_of_validateAll`, `Walk.steps_of_rejected`: the walk of required arguments ends where
  reading them in a row ends, with the same record, the same rest and the same rejection.
* `evaluate_conjunction`: a command is evaluated as the group of its arguments reads.
-/

namespace Switchboard

/-- A record is known by the value that a group gives for it. -/
theorem Record.toValue_injective : Function.Injective Record.toValue := by
  intro record record' h
  have hentry : Function.Injective fun entry : String × Value => (Value.text entry.1, entry.2) := by
    rintro ⟨name, value⟩ ⟨name', value'⟩ h
    cases h
    rfl
  exact (List.map_inj_right hentry).mp (Value.mapping.inj h)

namespace Argument

variable {label : Label} {members : List Argument}

/-- A group that joins its members by *and* accepts with their record. -/
theorem validate_and_eq_ok (hne : members ≠ []) {cs left : List Char} {record : Record} :
    (Argument.group label .and members).validate cs = .ok (record.toValue, left) ↔
      validateAll members cs [] = .ok (record, left) := by
  rw [validate_and hne]
  cases hread : validateAll members cs [] with
  | error e => simp
  | ok read =>
      obtain ⟨record', left'⟩ := read
      simp only [Except.ok.injEq, Prod.mk.injEq, Record.toValue_injective.eq_iff]

/-- Such a group rejects for the reason that one of its members has. -/
theorem validate_and_eq_error (hne : members ≠ []) {cs : List Char} {e : Refusal} :
    (Argument.group label .and members).validate cs = .error e ↔
      validateAll members cs [] = .error e := by
  rw [validate_and hne]
  cases validateAll members cs [] with
  | error e' => simp
  | ok read => simp

end Argument

/-! ### The walk of required arguments -/

namespace Walk

variable {arguments : List Argument} {w : Walk}

/-- Arguments that read in a row are walked to the same end. -/
theorem steps_of_validateAll {record : Record} {left : List Char} (hw : w.hard = none)
    (h : Argument.validateAll arguments w.left w.record = .ok (record, left)) :
    w.steps arguments = .ok { w with record, left } := by
  induction arguments generalizing w with
  | nil =>
      rw [Argument.validateAll] at h
      cases h
      rfl
  | cons a arguments ih =>
      rw [Argument.validateAll] at h
      cases hread : a.validate w.left with
      | error e =>
          rw [hread] at h
          cases h
      | ok read =>
          rw [hread] at h
          rw [steps, step_of_accepts hw hread]
          -- The record and the rest of the walk are those that the members go on with.
          exact ih (w := { w with
            record := w.record.put a.name read.1, left := Text.trim read.2 }) hw h

/-- Required arguments of which one rejects are walked up to it. -/
theorem steps_of_rejected {r : Rejection} (hrequired : ∀ a ∈ arguments, a.isOptional = false)
    (hw : w.hard = none)
    (h : Argument.validateAll arguments w.left w.record = .error (.rejected r)) :
    ∃ a ∈ arguments, ∃ record left,
      w.steps arguments = .ok { w with record, left, hard := some (a, r) } := by
  obtain ⟨front, a, after, record, left, rfl, hfront, ha⟩ := Argument.exists_of_validateAll h
  have ha' : a ∈ front ++ a :: after := by simp
  have hstep := step_of_rejects (w := { w with record, left }) hw ha (hrequired a ha')
  refine ⟨a, ha', record, left, ?_⟩
  rw [steps_append, steps_of_validateAll hw hfront]
  show Walk.steps { w with record, left } (a :: after) = _
  rw [steps, hstep]
  exact steps_of_hard rfl after

end Walk

/-! ### The evaluation of required arguments -/

namespace Setup

variable {σ : Type} {s : Setup σ} {id : CommandId} {c : Command} {u : World σ} {text : List Char}

/-- Arguments that read in a row are evaluated to their record.  What they leave is too much unless
it is nothing or tolerated. -/
theorem evaluate_of_validateAll (h : s.Fluent) (hc : u.registry.command? id = some c)
    {record : Record} {left : List Char}
    (hread : Argument.validateAll (u.registry.grammar c) text [] = .ok (record, left)) :
    ∃ o, (s.evaluate id text).result u = .ok o ∧ o.record = record ∧
      (o.fault = none ↔ left = [] ∨ c.tolerant = true) ∧
      ((∃ f, o.fault = some f ∧ f.kind = .tooManyArguments) ↔
        left ≠ [] ∧ c.tolerant = false) := by
  have hwalk : Walk.along (u.registry.grammar c) text = .ok { record, left } :=
    Walk.steps_of_validateAll (w := { left := text }) rfl hread
  obtain ⟨o, ho, -, hrecord, htells⟩ := evaluate_of_along h hc hwalk
  refine ⟨o, ho, hrecord, htells.eq_none_iff.trans ?_, htells.surplus_iff.trans ?_⟩
  · cases left <;> cases c.tolerant <;> simp [Walk.verdict]
  · cases left <;> cases c.tolerant <;> simp [Walk.verdict]

/-- Required arguments of which one rejects are evaluated to the fault of one of them. -/
theorem evaluate_of_rejected (h : s.Fluent) (hc : u.registry.command? id = some c)
    (hrequired : ∀ a ∈ u.registry.grammar c, a.isOptional = false) {r : Rejection}
    (hread : Argument.validateAll (u.registry.grammar c) text [] = .error (.rejected r)) :
    ∃ o, (s.evaluate id text).result u = .ok o ∧
      ∃ a ∈ u.registry.grammar c, s.Tells id (.required a r) o.fault := by
  obtain ⟨a, ha, record, left, hwalk⟩ :=
    Walk.steps_of_rejected (w := { left := text }) hrequired rfl hread
  obtain ⟨o, ho, -, -, htells⟩ := evaluate_of_along h hc hwalk
  exact ⟨o, ho, a, ha, htells⟩

/-- **A command is evaluated as the group of its arguments reads.**  Let the arguments of a command
be concrete and required, and the formatter never raise.  If text beyond the arguments is tolerated,
the evaluation has no fault and a record exactly if the group accepts with this record; if it is not
tolerated, exactly if the group also leaves nothing, and it finds too much text exactly if the group
accepts and leaves something.  If the group rejects, one of the arguments is at fault, and the fault
gives the reason that the group has. -/
theorem evaluate_conjunction (s : Setup σ) (h : s.Fluent) {id : CommandId} {c : Command}
    {u : World σ} (hc : u.registry.command? id = some c) (hne : u.registry.grammar c ≠ [])
    (hgrammar : ∀ a ∈ u.registry.grammar c, a.Concrete)
    (hrequired : ∀ a ∈ u.registry.grammar c, a.isOptional = false) (label : Label)
    (text : List Char) :
    let group := Argument.group label .and (u.registry.grammar c)
    ∃ o, (s.evaluate id text).result u = .ok o ∧
      (c.tolerant = true → ∀ record,
        ((∃ left, group.validate text = .ok (Record.toValue record, left)) ↔
          o.fault = none ∧ o.record = record)) ∧
      (c.tolerant = false → ∀ record,
        (group.validate text = .ok (Record.toValue record, []) ↔
          o.fault = none ∧ o.record = record)) ∧
      (c.tolerant = false →
        ((∃ value left, group.validate text = .ok (value, left) ∧ left ≠ []) ↔
          ∃ f, o.fault = some f ∧ f.kind = .tooManyArguments)) ∧
      ∀ r, group.validate text = .error (.rejected r) →
        ∃ a ∈ u.registry.grammar c, s.Tells id (.required a r) o.fault := by
  intro group
  cases hread : Argument.validateAll (u.registry.grammar c) text [] with
  | ok read =>
      obtain ⟨record, left⟩ := read
      obtain ⟨o, ho, rfl, hnone, hsurplus⟩ := evaluate_of_validateAll h hc hread
      have hgroup : group.validate text = .ok (Record.toValue o.record, left) :=
        (Argument.validate_and_eq_ok hne).mpr hread
      rw [hgroup]
      refine ⟨o, ho, fun ht record => ?_, fun ht record => ?_, fun ht => ?_, fun r hr => ?_⟩
      · simp [hnone, ht, Record.toValue_injective.eq_iff]
      · simp [hnone, ht, Record.toValue_injective.eq_iff, and_comm]
      · refine Iff.trans ⟨?_, ?_⟩ hsurplus.symm
        · rintro ⟨_, _, hok, hleft⟩
          cases hok
          exact ⟨hleft, ht⟩
        · rintro ⟨hleft, -⟩
          exact ⟨_, _, rfl, hleft⟩
      · cases hr
  | error e =>
      cases e with
      | unusable obstacle =>
          obtain ⟨front, a, after, _, left, hsplit, -, hunusable⟩ :=
            Argument.exists_of_validateAll hread
          have ha : a ∈ u.registry.grammar c := by simp [hsplit]
          exact absurd hunusable ((hgrammar a ha).usable left obstacle)
      | rejected r =>
          obtain ⟨o, ho, a, ha, htells⟩ := evaluate_of_rejected h hc hrequired hread
          have hgroup : group.validate text = .error (.rejected r) :=
            (Argument.validate_and_eq_error hne).mpr hread
          have hnone : o.fault ≠ none := by simp [htells.eq_none_iff]
          have hsurplus := htells.surplus_iff
          rw [hgroup]
          refine ⟨o, ho, fun _ record => ?_, fun _ record => ?_, fun _ => ?_, fun r' hr => ?_⟩
          · simp [hnone]
          · simp [hnone]
          · simp [hsurplus]
          · cases hr
            exact ⟨a, ha, htells⟩

/-- A number, and a number or a word under the same name: a line with a word too many has the group
accept and leave the word, and the command find too much text. -/
theorem evaluate_conjunction_rehearsed :
    let s : Setup Rehearsal.Cast := { host := Rehearsal.host fun _ => "" }
    let count : Argument := .number { name := "n" } {}
    let either : Argument := .group { name := "n" } .or [count, .string { name := "word" } {}]
    let u : World Rehearsal.Cast := {
      registry := {
        commands := [{ name := "ale", grammar := [0, 1], standing := .listed }]
        arguments := [count, either] }
      memory := {} }
    let text := "5 x yz".toList
    s.Fluent ∧ (∀ a ∈ [count, either], a.Concrete) ∧
      (∀ a ∈ [count, either], a.isOptional = false) ∧
      (Argument.group {} .and [count, either]).validate text = .ok
        (Record.toValue [("n", Record.toValue [("word", .text "x")])], ['y', 'z']) ∧
      ∃ o f, (s.evaluate 0 text).result u = .ok o ∧ o.fault = some f ∧
        f.kind = .tooManyArguments := by
  intro s count either u text
  have hfluent : s.Fluent := fun _ => .pure _
  have hconcrete : ∀ a ∈ [count, either], a.Concrete := by
    simp only [List.forall_mem_cons, List.not_mem_nil, false_implies, implies_true, and_true]
    refine ⟨.number _ _, .group _ _ ?_⟩
    simp only [List.forall_mem_cons, List.not_mem_nil, false_implies, implies_true, and_true]
    exact ⟨.number _ _, .string _ rfl⟩
  have hrequired : ∀ a ∈ [count, either], a.isOptional = false := by
    simp only [List.forall_mem_cons, List.not_mem_nil, false_implies, implies_true, and_true]
    exact ⟨rfl, rfl⟩
  have hgroup : (Argument.group {} .and [count, either]).validate text = .ok
      (Record.toValue [("n", Record.toValue [("word", .text "x")])], ['y', 'z']) := rfl
  have hknown : u.registry.command? 0 =
      some { name := "ale", grammar := [0, 1], standing := .listed } := rfl
  obtain ⟨o, ho, -, -, hsurplus, -⟩ := evaluate_conjunction s hfluent hknown
    (List.cons_ne_nil _ _) hconcrete hrequired {} text
  obtain ⟨f, hf, hkind⟩ := (hsurplus rfl).mp ⟨_, _, hgroup, List.cons_ne_nil _ _⟩
  exact ⟨hfluent, hconcrete, hrequired, hgroup, o, f, ho, hf, hkind⟩

end Setup

end Switchboard
