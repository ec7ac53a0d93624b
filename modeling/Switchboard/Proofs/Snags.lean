import Switchboard.Proofs.Constraints
import Switchboard.Proofs.Grouping

/-!
# Proofs — Snags

Where the reading of a text comes to a pattern for bytes.  An argument for texts comes to it once the
text is as demanded in all else.  Members in a row come to that of the first one that the others let
it come to: those before it accept, and leave the text to it.  Alternatives come to it if those
before it reject.  The reading ends there, whatever stands behind.

* `Argument.Snags`: the reading of a text by a tree comes to a pattern for bytes.
* `leaveAll_eq_error`, `validateAny_eq_unusable`: which of some members a refusal comes from.
* `snags_iff`: that is exactly when a tree cannot read a text for the sake of such a pattern.
-/

namespace Switchboard

namespace Argument

/-- **The reading of a text comes to a pattern for bytes.** -/
inductive Snags : Argument → List Char → Prop where
  | text {portion : Portion} {rule : TextRule} {cs x left : List Char} (label : Label)
      (hcuts : portion.Cuts cs x left) (h : rule.Snags (rule.forced x)) :
      Snags (portion.argument label rule) cs
  | inRow {front : List Argument} {a : Argument} {cs left : List Char} (label : Label)
      (hfront : leaveAll front cs = .ok left) (h : Snags a left) (after : List Argument) :
      Snags (.group label .and (front ++ a :: after)) cs
  | alternative {front : List Argument} {a : Argument} {cs : List Char} (label : Label)
      (hfront : ∀ b ∈ front, b.Rejects cs) (h : Snags a cs) (after : List Argument) :
      Snags (.group label .or (front ++ a :: after)) cs

section

variable {members : List Argument} {cs : List Char}

/-- What is refused by members in a row is refused by the first of them that does not accept what
those before it leave. -/
theorem leaveAll_eq_error {e : Refusal} :
    leaveAll members cs = .error e ↔ ∃ front a after left, members = front ++ a :: after ∧
      leaveAll front cs = .ok left ∧ a.validate left = .error e := by
  constructor
  · intro h
    rw [← map_validateAll members cs []] at h
    cases hread : validateAll members cs [] with
    | ok read =>
        rw [hread] at h
        cases h
    | error e' =>
        rw [hread] at h
        cases h
        obtain ⟨front, a, after, record, left, rfl, hfront, ha⟩ := exists_of_validateAll hread
        refine ⟨front, a, after, left, rfl, ?_, ha⟩
        rw [← map_validateAll front cs [], hfront]
        rfl
  · rintro ⟨front, a, after, left, rfl, hfront, ha⟩
    rw [leaveAll_append, hfront]
    show leaveAll (a :: after) left = .error e
    rw [leaveAll_cons, leave, ha]
    rfl

/-- A group of members in a row refuses what they refuse. -/
theorem validate_and_refuses {label : Label} (hne : members ≠ []) {e : Refusal} :
    (Argument.group label .and members).validate cs = .error e ↔
      leaveAll members cs = .error e := by
  rw [← map_validate_and label hne]
  cases (Argument.group label .and members).validate cs <;> simp [Except.map]

/-- Alternatives cannot read what the first of them cannot read that does not reject. -/
theorem validateAny_eq_unusable {obstacle : Obstacle} :
    validateAny members cs = .error (.unusable obstacle) ↔
      ∃ front a after, members = front ++ a :: after ∧ (∀ b ∈ front, b.Rejects cs) ∧
        a.validate cs = .error (.unusable obstacle) := by
  refine ⟨exists_of_validateAny, ?_⟩
  rintro ⟨front, a, after, rfl, hfront, ha⟩
  rw [validateAny_of_rejects hfront, validateAny, ha]

/-- A group of alternatives cannot read what they cannot read. -/
theorem validate_or_unusable {label : Label} (hne : members ≠ []) {obstacle : Obstacle} :
    (Argument.group label .or members).validate cs = .error (.unusable obstacle) ↔
      validateAny members cs = .error (.unusable obstacle) := by
  rw [validate_or hne]
  cases validateAny members cs with
  | error e => simp
  | ok found => cases found <;> simp [reject]

end

/-- A tree cannot read a text that comes to a pattern for bytes. -/
theorem Snags.unusable {a : Argument} {cs : List Char} (h : a.Snags cs) :
    a.validate cs = .error (.unusable .bytesPattern) := by
  induction h with
  | text label hcuts h => exact (text_unusable hcuts).mpr ⟨h, rfl⟩
  | inRow label hfront _ after ih =>
      exact (validate_and_refuses (by simp)).mpr
        (leaveAll_eq_error.mpr ⟨_, _, after, _, rfl, hfront, ih⟩)
  | alternative label hfront _ after ih =>
      exact (validate_or_unusable (by simp)).mpr
        (validateAny_eq_unusable.mpr ⟨_, _, after, rfl, hfront, ih⟩)

/-- What an argument for texts takes snags if the argument cannot read the text. -/
theorem text_snags (portion : Portion) {label : Label} {rule : TextRule} {cs : List Char}
    (h : (portion.argument label rule).validate cs = .error (.unusable .bytesPattern)) :
    (portion.argument label rule).Snags cs := by
  obtain ⟨x, left, hcuts⟩ := portion.exists_cuts cs
  exact .text label hcuts ((text_unusable hcuts).mp h).1

/-- A tree that cannot read a text for the sake of a pattern for bytes comes to one. -/
theorem snags_of_unusable (a : Argument) {cs : List Char}
    (h : a.validate cs = .error (.unusable .bytesPattern)) : a.Snags cs := by
  induction a using memberInduction generalizing cs with
  | bare label =>
      rw [validate_bare] at h
      cases h
  | string => exact text_snags .token h
  | rest => exact text_snags .all h
  | number => exact absurd h number_usable
  | client => exact absurd h client_usable
  | group label combinator members ih =>
      have hne : members ≠ [] := by
        rintro rfl
        rw [validate_group_nil] at h
        cases h
      cases combinator with
      | and =>
          obtain ⟨front, a, after, left, rfl, hfront, ha⟩ :=
            leaveAll_eq_error.mp ((validate_and_refuses hne).mp h)
          exact .inRow label hfront (ih a (by simp) ha) after
      | or =>
          obtain ⟨front, a, after, rfl, hfront, ha⟩ :=
            validateAny_eq_unusable.mp ((validate_or_unusable hne).mp h)
          exact .alternative label hfront (ih a (by simp) ha) after

/-- **A tree comes to a pattern for bytes exactly if it cannot read the text because of one.** -/
theorem snags_iff {a : Argument} {cs : List Char} :
    a.Snags cs ↔ a.validate cs = .error (.unusable .bytesPattern) :=
  ⟨Snags.unusable, snags_of_unusable a⟩

end Argument

end Switchboard
