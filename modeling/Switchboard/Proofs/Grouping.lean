import Switchboard.Proofs.Cutting
import Switchboard.Proofs.Ruling

/-!
# Proofs — Grouping

What a group makes of a text, without the values.  Members in a row leave what is left after the
last of them, trimmed after each one.  Of alternatives, the first one that accepts is chosen, and
what it leaves is trimmed; if all of them reject, the group rejects for itself.

* `Argument.memberInduction`: induction over a tree of arguments.
* `Argument.leave`, `Argument.leaveAll`: what arguments leave, without their record.
* `map_validate_and`, `map_trim_leaveAll`: what a group of members in a row leaves.
* `Argument.Chosen`, `Chosen.unique`, `chosen_or_rejects`: the first of some alternatives that
  accepts.
* `Chosen.validate_or`, `validate_or_of_rejects`: what a group of alternatives comes to.
-/

namespace Switchboard

namespace Argument

/-- **Induction over a tree of arguments**: what holds of the arguments that are no groups, and of a
group if it holds of its members, holds of all. -/
@[elab_as_elim]
theorem memberInduction {motive : Argument → Prop} (bare : ∀ label, motive (.bare label))
    (string : ∀ label rule, motive (.string label rule))
    (number : ∀ label rule, motive (.number label rule)) (client : ∀ label, motive (.client label))
    (rest : ∀ label rule, motive (.rest label rule))
    (group : ∀ label combinator members, (∀ m ∈ members, motive m) →
      motive (.group label combinator members)) : ∀ a, motive a
  | .bare label => bare label
  | .string label rule => string label rule
  | .number label rule => number label rule
  | .client label => client label
  | .rest label rule => rest label rule
  | .group label combinator members =>
      group label combinator members fun m _ =>
        memberInduction bare string number client rest group m

/-- The argument rejects the text. -/
def Rejects (a : Argument) (cs : List Char) : Prop := ∃ r, a.validate cs = .error (.rejected r)

/-! ### Members in a row -/

/-- What is left after an argument, trimmed. -/
def leave (cs : List Char) (a : Argument) : Except Refusal (List Char) :=
  (a.validate cs).map fun read => Text.trim read.2

/-- What is left after arguments in a row. -/
def leaveAll (arguments : List Argument) (cs : List Char) : Except Refusal (List Char) :=
  arguments.foldlM leave cs

section

variable {members : List Argument}

theorem leaveAll_append (arguments more : List Argument) (cs : List Char) :
    leaveAll (arguments ++ more) cs = leaveAll arguments cs >>= leaveAll more :=
  List.foldlM_append

theorem leaveAll_cons (a : Argument) (arguments : List Argument) (cs : List Char) :
    leaveAll (a :: arguments) cs = leave cs a >>= leaveAll arguments :=
  List.foldlM_cons

/-- The record makes no difference to what is left. -/
theorem map_validateAll (arguments : List Argument) (cs : List Char) (record : Record) :
    (validateAll arguments cs record).map Prod.snd = leaveAll arguments cs := by
  induction arguments generalizing cs record with
  | nil => rfl
  | cons a arguments ih =>
      rw [validateAll, leaveAll_cons, leave]
      cases a.validate cs with
      | error e => rfl
      | ok read => exact ih _ _

/-- What a group of members in a row leaves is what they leave. -/
theorem map_validate_and (label : Label) (hne : members ≠ []) (cs : List Char) :
    ((Argument.group label .and members).validate cs).map Prod.snd = leaveAll members cs := by
  rw [validate_and hne, ← map_validateAll members cs []]
  cases validateAll members cs [] <;> rfl

/-- What is left after the last of some arguments is trimmed. -/
theorem map_trim_leaveAll (hne : members ≠ []) (cs : List Char) :
    (leaveAll members cs).map Text.trim = leaveAll members cs := by
  obtain ⟨front, last, rfl⟩ := (List.eq_nil_or_concat members).resolve_left hne
  rw [List.concat_eq_append, leaveAll_append]
  cases leaveAll front cs with
  | error e => rfl
  | ok left =>
      show (leaveAll [last] left).map Text.trim = leaveAll [last] left
      rw [leaveAll_cons, leave]
      cases last.validate left with
      | error e => rfl
      | ok read => exact congrArg Except.ok (Text.trim_trim read.2)

/-- A group of members in a row, as one argument, leaves what they leave. -/
theorem leave_group (label : Label) (hne : members ≠ []) (cs : List Char) :
    leave cs (.group label .and members) = leaveAll members cs := by
  rw [← map_trim_leaveAll hne, ← map_validate_and label hne, leave]
  cases (Argument.group label .and members).validate cs <;> rfl

end

/-! ### Alternatives -/

/-- **The first of some alternatives that accepts**, with those before it, which all reject. -/
structure Chosen (members : List Argument) (cs : List Char) (before : List Argument)
    (a : Argument) (value : Value) (rest : List Char) : Prop where
  stands : ∃ after, members = before ++ a :: after
  rejects : ∀ b ∈ before, b.Rejects cs
  accepts : a.validate cs = .ok (value, rest)

section

variable {members before : List Argument} {a : Argument} {cs rest : List Char} {value : Value}

theorem validateAny_of_rejects (h : ∀ b ∈ before, b.Rejects cs) (more : List Argument) :
    validateAny (before ++ more) cs = validateAny more cs := by
  induction before with
  | nil => rfl
  | cons b before ih =>
      obtain ⟨r, hr⟩ := h b (.head _)
      rw [List.cons_append, validateAny, hr]
      exact ih fun c hc => h c (.tail _ hc)

theorem Chosen.head (h : a.validate cs = .ok (value, rest)) (after : List Argument) :
    Chosen (a :: after) cs [] a value rest :=
  ⟨⟨after, rfl⟩, nofun, h⟩

theorem Chosen.length_lt (h : Chosen members cs before a value rest) :
    before.length < members.length := by
  obtain ⟨after, rfl⟩ := h.stands
  simp

/-- Alternatives after the one that accepts make no difference. -/
theorem Chosen.append (h : Chosen members cs before a value rest) (more : List Argument) :
    Chosen (members ++ more) cs before a value rest := by
  obtain ⟨after, rfl⟩ := h.stands
  exact ⟨⟨after ++ more, by simp⟩, h.rejects, h.accepts⟩

/-- Alternatives that reject, before the one that accepts, make no difference. -/
theorem Chosen.prepend (h : Chosen members cs before a value rest) {front : List Argument}
    (hfront : ∀ b ∈ front, b.Rejects cs) :
    Chosen (front ++ members) cs (front ++ before) a value rest := by
  obtain ⟨after, rfl⟩ := h.stands
  refine ⟨⟨after, by simp⟩, fun b hb => ?_, h.accepts⟩
  exact (List.mem_append.mp hb).elim (hfront b) (h.rejects b)

/-- There is one choice at most. -/
theorem Chosen.unique (h : Chosen members cs before a value rest) {before' : List Argument}
    {a' : Argument} {value' : Value} {rest' : List Char}
    (h' : Chosen members cs before' a' value' rest') :
    before = before' ∧ a = a' ∧ value = value' ∧ rest = rest' := by
  induction members generalizing before before' with
  | nil => exact absurd h.length_lt (Nat.not_lt_zero _)
  | cons b members ih =>
      obtain ⟨after, hsplit⟩ := h.stands
      obtain ⟨after', hsplit'⟩ := h'.stands
      cases before with
      | nil =>
          cases hsplit
          cases before' with
          | nil =>
              cases hsplit'
              cases h.accepts.symm.trans h'.accepts
              exact ⟨rfl, rfl, rfl, rfl⟩
          | cons b' before' =>
              cases hsplit'
              obtain ⟨r, hr⟩ := h'.rejects _ (.head _)
              cases h.accepts.symm.trans hr
      | cons c before =>
          cases hsplit
          cases before' with
          | nil =>
              cases hsplit'
              obtain ⟨r, hr⟩ := h.rejects _ (.head _)
              cases h'.accepts.symm.trans hr
          | cons c' before' =>
              obtain ⟨rfl, hmembers⟩ := List.cons.inj hsplit'
              obtain ⟨rfl, hmore⟩ := ih
                ⟨⟨after, rfl⟩, fun d hd => h.rejects d (.tail _ hd), h.accepts⟩
                ⟨⟨after', hmembers⟩, fun d hd => h'.rejects d (.tail _ hd), h'.accepts⟩
              exact ⟨rfl, hmore⟩

/-- A group of alternatives accepts with the value of the first one that accepts. -/
theorem Chosen.validate_or (h : Chosen members cs before a value rest) (label : Label) :
    (Argument.group label .or members).validate cs =
      .ok (Record.toValue [(a.name, value)], Text.trim rest) := by
  obtain ⟨after, rfl⟩ := h.stands
  rw [Argument.validate_or (by simp), validateAny_of_rejects h.rejects, validateAny, h.accepts]

/-- A group of alternatives that all reject rejects for itself. -/
theorem validate_or_of_rejects (hne : members ≠ []) (h : ∀ b ∈ members, b.Rejects cs)
    (label : Label) :
    (Argument.group label .or members).validate cs =
      .error (.rejected ⟨.group label .or members, .noAlternative⟩) := by
  have hany := validateAny_of_rejects h []
  rw [List.append_nil] at hany
  rw [Argument.validate_or hne, hany]
  rfl

theorem Concrete.accepts_or_rejects (h : a.Concrete) (cs : List Char) :
    (∃ value rest, a.validate cs = .ok (value, rest)) ∨ a.Rejects cs := by
  cases hread : a.validate cs with
  | ok read => exact .inl ⟨read.1, read.2, rfl⟩
  | error e =>
      cases e with
      | unusable obstacle => exact absurd hread (h.usable cs obstacle)
      | rejected r => exact .inr ⟨r, hread⟩

/-- **One of some alternatives is the first that accepts, or all reject.** -/
theorem chosen_or_rejects (h : ∀ a ∈ members, a.Concrete) (cs : List Char) :
    (∃ before a value rest, Chosen members cs before a value rest) ∨
      ∀ b ∈ members, b.Rejects cs := by
  induction members with
  | nil => exact .inr nofun
  | cons a members ih =>
      rcases (h a (.head _)).accepts_or_rejects cs with ⟨value, rest, hread⟩ | hrejects
      · exact .inl ⟨[], a, value, rest, .head hread members⟩
      · have hfirst : ∀ b ∈ [a], b.Rejects cs := by simpa using hrejects
        rcases ih fun b hb => h b (.tail _ hb) with ⟨before, b, value, rest, hchosen⟩ | hmore
        · exact .inl ⟨a :: before, b, value, rest, hchosen.prepend hfirst⟩
        · exact .inr (List.forall_mem_cons.mpr ⟨hrejects, hmore⟩)

end

end Argument

end Switchboard
