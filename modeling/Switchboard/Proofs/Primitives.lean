import Switchboard.Argument.Validate

/-!
# Proofs — Primitives

What an argument that is no group makes of a text: when it accepts, with which value and what is
left then, when it rejects, for which reason, and what else may keep it from reading the text.

* `Reason.demand_eq_some`, `Reason.demand_eq_none`: a demand that there may be.
* `string_accepts`, `string_rejects`, `string_unusable`: a text token.
* `rest_accepts`, `rest_rejects`, `rest_unusable`: the rest of a text.
* `number_accepts`, `number_rejects`, `number_usable`: a number token.
* `client_accepts`, `client_rejects`, `client_usable`: a reference to a client.
-/

namespace Switchboard

namespace Reason

variable {α : Type} {demand : Option α} {fails : α → Prop} [DecidablePred fails]
  {wording : α → Reason} {reason : Reason}

/-- A demand that is there and is not met is a reason. -/
theorem demand_eq_some :
    (demand.bind fun m => if fails m then some (wording m) else none) = some reason ↔
      ∃ m ∈ demand, fails m ∧ wording m = reason := by
  cases demand <;> simp

/-- There is no reason if the demand is met or is not there. -/
theorem demand_eq_none :
    (demand.bind fun m => if fails m then some (wording m) else none) = none ↔
      ∀ m ∈ demand, ¬fails m := by
  cases demand <;> simp

end Reason

namespace Argument

variable {label : Label} {cs left : List Char} {value : Value} {r : Rejection}
  {obstacle : Obstacle}

section

variable {rule : TextRule}

theorem string_accepts :
    (Argument.string label rule).validate cs = .ok (value, left) ↔
      (rule.fault? (rule.forced (Text.splitToken cs).1) = none ∧ rule.ofBytes = false) ∧
        value = .text (String.ofList (rule.forced (Text.splitToken cs).1)) ∧
        left = (Text.splitToken cs).2 := by
  rw [validate]
  cases hfault : rule.fault? (rule.forced (Text.splitToken cs).1) with
  | none => cases hbytes : rule.ofBytes <;> simp [hfault, eq_comm]
  | some reason => simp [hfault, reject]

theorem string_rejects :
    (Argument.string label rule).validate cs = .error (.rejected r) ↔
      ∃ reason, rule.fault? (rule.forced (Text.splitToken cs).1) = some reason ∧
        r = ⟨.string label rule, reason⟩ := by
  rw [validate]
  cases hfault : rule.fault? (rule.forced (Text.splitToken cs).1) with
  | none => cases hbytes : rule.ofBytes <;> simp [hfault]
  | some reason => simp [hfault, reject, eq_comm]

theorem string_unusable :
    (Argument.string label rule).validate cs = .error (.unusable obstacle) ↔
      (rule.fault? (rule.forced (Text.splitToken cs).1) = none ∧ rule.ofBytes = true) ∧
        obstacle = .bytesPattern := by
  rw [validate]
  cases hfault : rule.fault? (rule.forced (Text.splitToken cs).1) with
  | none => cases hbytes : rule.ofBytes <;> simp [hfault, eq_comm]
  | some reason => simp [hfault, reject]

theorem rest_accepts :
    (Argument.rest label rule).validate cs = .ok (value, left) ↔
      (rule.fault? (rule.forced cs) = none ∧ rule.ofBytes = false) ∧
        value = .text (String.ofList (rule.forced cs)) ∧ left = [] := by
  rw [validate]
  cases hfault : rule.fault? (rule.forced cs) with
  | none => cases hbytes : rule.ofBytes <;> simp [eq_comm]
  | some reason => simp [reject]

theorem rest_rejects :
    (Argument.rest label rule).validate cs = .error (.rejected r) ↔
      ∃ reason, rule.fault? (rule.forced cs) = some reason ∧ r = ⟨.rest label rule, reason⟩ := by
  rw [validate]
  cases hfault : rule.fault? (rule.forced cs) with
  | none => cases hbytes : rule.ofBytes <;> simp
  | some reason => simp [reject, eq_comm]

theorem rest_unusable :
    (Argument.rest label rule).validate cs = .error (.unusable obstacle) ↔
      (rule.fault? (rule.forced cs) = none ∧ rule.ofBytes = true) ∧
        obstacle = .bytesPattern := by
  rw [validate]
  cases hfault : rule.fault? (rule.forced cs) with
  | none => cases hbytes : rule.ofBytes <;> simp [eq_comm]
  | some reason => simp [reject]

end

section

variable {rule : NumberRule}

theorem number_accepts :
    (Argument.number label rule).validate cs = .ok (value, left) ↔
      ∃ n, Number.read? (Text.splitToken cs).1 = some n ∧ rule.fault? n = none ∧
        value = n.toValue ∧ left = (Text.splitToken cs).2 := by
  rw [validate]
  cases hread : Number.read? (Text.splitToken cs).1 with
  | none => simp [hread, reject]
  | some n =>
      cases hfault : rule.fault? n with
      | none => simp [hread, hfault, eq_comm]
      | some reason => simp [hread, hfault, reject]

theorem number_rejects :
    (Argument.number label rule).validate cs = .error (.rejected r) ↔
      (Number.read? (Text.splitToken cs).1 = none ∧
          r = ⟨.number label rule, .notNumber (String.ofList (Text.splitToken cs).1)⟩) ∨
        ∃ n reason, Number.read? (Text.splitToken cs).1 = some n ∧ rule.fault? n = some reason ∧
          r = ⟨.number label rule, reason⟩ := by
  rw [validate]
  cases hread : Number.read? (Text.splitToken cs).1 with
  | none => simp [hread, reject, eq_comm]
  | some n =>
      cases hfault : rule.fault? n with
      | none => simp [hread, hfault]
      | some reason => simp [hread, hfault, reject, eq_comm]

theorem number_usable :
    (Argument.number label rule).validate cs ≠ .error (.unusable obstacle) := by
  rw [validate]
  cases hread : Number.read? (Text.splitToken cs).1 with
  | none => simp [hread, reject]
  | some n => cases hfault : rule.fault? n <;> simp [hread, hfault, reject]

end

theorem client_accepts :
    (Argument.client label).validate cs = .ok (value, left) ↔
      ∃ id, ClientLink.split? cs = some (id, left) ∧ value = .text (String.ofList id) := by
  rw [validate]
  cases hread : ClientLink.split? cs with
  | none => simp [reject]
  | some read =>
      obtain ⟨id, rest⟩ := read
      constructor
      · intro h
        cases h
        exact ⟨id, rfl, rfl⟩
      · rintro ⟨_, h, rfl⟩
        cases h
        rfl

theorem client_rejects :
    (Argument.client label).validate cs = .error (.rejected r) ↔
      ClientLink.split? cs = none ∧ r = ⟨.client label, .noClient⟩ := by
  rw [validate]
  cases hread : ClientLink.split? cs with
  | none => simp [reject, eq_comm]
  | some read => simp

theorem client_usable : (Argument.client label).validate cs ≠ .error (.unusable obstacle) := by
  rw [validate]
  cases ClientLink.split? cs <;> simp [reject]

end Argument

end Switchboard
