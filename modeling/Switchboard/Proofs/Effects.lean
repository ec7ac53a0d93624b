import Mathlib.Data.List.Basic
import Switchboard.Registry

/-!
# Proofs — Effects

What an operation does to the commands of a registry.  It adds a command at the end, or puts another
command in the place of one, or leaves the commands as they are, and which of these it did can be
told from the operation and its result.

* `Deal`: an operation with what came of it.
* `Accepts`, `create_eq_ok`: the names that can be given to a command that is created.
* `Effect`, `apply_effect`: all that an operation can do to the commands.
* `command?_of_append`, `command?_of_set`: the commands after it, one by one.
* `declare_names`: a declaration keeps the standing and the names of a command, and adds names that
  are new.
-/

namespace Switchboard

/-- An operation, and what came of it. -/
structure Deal where
  operation : Operation
  result : Except Failure (Option Nat)

namespace Deal

/-- The command that was created, with the name it was given. -/
def created? : Deal → Option (CommandId × String)
  | ⟨.create (.text name) _, .ok (some id)⟩ => some (id, name)
  | _ => none

/-- The command that was removed or destroyed. -/
def dropped? : Deal → Option CommandId
  | ⟨.remove id, .ok _⟩ | ⟨.destroy id, .ok _⟩ => some id
  | _ => none

end Deal

/-! ### Declarations -/

namespace Command

/-- Names that are checked are not empty, and differ from the name, from those seen before and from
each other. -/
theorem checkAliases_ok {name : String} {seen added : List String} {values : List Value}
    (h : checkAliases name seen values = .ok added) :
    added.Nodup ∧ ∀ other ∈ added, other ≠ "" ∧ other ≠ name ∧ other ∉ seen := by
  induction values generalizing seen added with
  | nil =>
      cases h
      exact ⟨.nil, by simp⟩
  | cons value values ih =>
      cases value with
      | text other =>
          rw [checkAliases] at h
          split at h
          · cases h
          split at h
          · cases h
          split at h
          · cases h
          rename_i hempty hname hseen
          cases hchecked : checkAliases name (other :: seen) values with
          | error e =>
              rw [hchecked] at h
              cases h
          | ok more =>
              rw [hchecked] at h
              cases h
              obtain ⟨hnodup, hmore⟩ := ih hchecked
              -- The names after this one have seen it, so it is none of them.
              refine ⟨List.nodup_cons.mpr ⟨?_, hnodup⟩, List.forall_mem_cons.mpr ⟨?_, ?_⟩⟩
              · exact fun hmem => (hmore other hmem).2.2 (.head _)
              · exact ⟨by simpa using hempty, hname, by simpa using hseen⟩
              · intro later hlater
                obtain ⟨h₁, h₂, h₃⟩ := hmore later hlater
                exact ⟨h₁, h₂, fun hmem => h₃ (.tail _ hmem)⟩
      | _ => cases h

/-- **What a declaration keeps**: the standing and the names of the command.  Names that it adds are
not empty, are new to the command, and differ from each other. -/
theorem declare_names {c c' : Command} {d : Declaration} (h : c.declare d = .ok c') :
    c'.standing = c.standing ∧ ∃ added, c'.names = c.names ++ added ∧ added.Nodup ∧
      ∀ other ∈ added, other ≠ "" ∧ other ∉ c.names := by
  have kept {c' : Command} (hname : c'.name = c.name) (haliases : c'.aliases = c.aliases) :
      ∃ added, c'.names = c.names ++ added ∧ added.Nodup ∧
        ∀ other ∈ added, other ≠ "" ∧ other ∉ c.names :=
    ⟨[], by rw [names, names, hname, haliases, List.append_nil], .nil, by simp⟩
  unfold declare at h
  split at h
  case isTrue => cases h
  case isFalse =>
    split at h
    case h_5 values =>
      cases hchecked : checkAliases c.name c.aliases values with
      | error e =>
          rw [hchecked] at h
          cases h
      | ok added =>
          rw [hchecked] at h
          cases h
          obtain ⟨hnodup, hadded⟩ := checkAliases_ok hchecked
          refine ⟨rfl, added, rfl, hnodup, fun other hother => ?_⟩
          obtain ⟨hne, hname, haliases⟩ := hadded other hother
          exact ⟨hne, by simp [names, hname, haliases]⟩
    -- A predicate and a handler are looked at first, whether they can be called.
    case h_6 | h_9 =>
      split at h
      all_goals cases h
      exact ⟨rfl, kept rfl rfl⟩
    all_goals cases h
    all_goals exact ⟨rfl, kept rfl rfl⟩

theorem declare_name {c c' : Command} {d : Declaration} (h : c.declare d = .ok c') :
    c'.name = c.name := by
  obtain ⟨-, added, hnames, -⟩ := declare_names h
  exact List.head_eq_of_cons_eq hnames

end Command

namespace Registry

/-- An operation, with what comes of it. -/
def deal (r : Registry) (op : Operation) : Deal := ⟨op, (r.apply op).result⟩

/-- Whether `create` accepts a name: it is not empty, and it has one letter only under the
override. -/
def Accepts (name : String) (override : Value) : Prop :=
  name ≠ "" ∧ (name.length = 1 → override.isText oneCharOverride = true)

/-- What a deal does to the commands, from one registry to the next. -/
inductive Effect (r r' : Registry) : Deal → Prop where
  /-- It was refused, or it was about an argument. -/
  | idle {d : Deal} (hcreated : d.created? = none) (hdropped : d.dropped? = none)
      (h : r'.commands = r.commands) : Effect r r' d
  | create {name : String} {override : Value} (haccepts : Accepts name override)
      (h : r'.commands = r.commands ++ [{ name, standing := .listed }]) :
      Effect r r' ⟨.create (.text name) override, .ok (some r.commands.length)⟩
  | make {name : String} (hname : name ≠ "") (h : r'.commands = r.commands ++ [{ name := name }]) :
      Effect r r' ⟨.make (.text name), .ok (some r.commands.length)⟩
  | remove {id : CommandId} {c : Command} (hc : r.command? id = some c)
      (h : r'.commands =
        r.commands.set id (if c.isListed then { c with standing := .removed } else c)) :
      Effect r r' ⟨.remove id, .ok none⟩
  | destroy {id : CommandId} {c : Command} (hc : r.command? id = some c)
      (halive : c.isDestroyed = false)
      (h : r'.commands = r.commands.set id { c with standing := .destroyed }) :
      Effect r r' ⟨.destroy id, .ok none⟩
  | declare {d : Deal} {id : CommandId} {c c' : Command} {declaration : Declaration}
      (hcreated : d.created? = none) (hdropped : d.dropped? = none)
      (hc : r.command? id = some c) (hdeclare : c.declare declaration = .ok c')
      (h : r'.commands = r.commands.set id c') : Effect r r' d

/-- The arguments of a registry make no difference. -/
theorem Effect.congr {r r' r'' : Registry} {d : Deal} (hd : Effect r r' d)
    (hsame : r''.commands = r'.commands) : Effect r r'' d := by
  cases hd with
  | idle hcreated hdropped h => exact .idle hcreated hdropped (hsame.trans h)
  | create haccepts h => exact .create haccepts (hsame.trans h)
  | make hname h => exact .make hname (hsame.trans h)
  | remove hc h => exact .remove hc (hsame.trans h)
  | destroy hc halive h => exact .destroy hc halive (hsame.trans h)
  | declare hcreated hdropped hc hdeclare h =>
      exact .declare hcreated hdropped hc hdeclare (hsame.trans h)

/-! ### The commands one by one -/

section

variable {r r' : Registry} {id : CommandId} {c : Command}

theorem lt_of_command? (hc : r.command? id = some c) : id < r.commands.length :=
  (List.getElem?_eq_some_iff.mp hc).1

/-- After a command is added, the command of a number is the one of before, or the new one. -/
theorem command?_of_append (h : r'.commands = r.commands ++ [c]) (j : CommandId) :
    r'.command? j = if j = r.commands.length then some c else r.command? j := by
  rw [command?, h]
  split
  · rename_i hj
    rw [hj, List.getElem?_concat_length]
  · rename_i hj
    rcases Nat.lt_or_gt_of_ne hj with hlt | hgt
    · exact List.getElem?_append_left hlt
    · have hnone : r.command? j = none := List.getElem?_eq_none (Nat.le_of_lt hgt)
      rw [hnone, List.getElem?_eq_none]
      simpa using Nat.succ_le_of_lt hgt

/-- After a command is replaced, the command of a number is the one of before, or the one in its
place. -/
theorem command?_of_set {c' : Command} (hc : r.command? id = some c)
    (h : r'.commands = r.commands.set id c') (j : CommandId) :
    r'.command? j = if id = j then some c' else r.command? j := by
  rw [command?, h, List.getElem?_set, if_pos (lt_of_command? hc)]
  rfl

theorem update_commands (hc : r.command? id = some c) (f : Command → Command) :
    (r.update id f).commands = r.commands.set id (f c) := by
  rw [update, List.modify_eq_set_getElem?, show r.commands[id]? = some c from hc]
  rfl

end

/-! ### The effect of each operation -/

section

variable (r : Registry)

/-- The test of `create` refuses the names that are not accepted. -/
theorem refuses_iff {name : String} {override : Value} :
    (name.isEmpty || (name.length == 1 && !override.isText oneCharOverride)) = true ↔
      ¬ Accepts name override := by
  simp only [Accepts, Bool.or_eq_true, Bool.and_eq_true, String.isEmpty_iff, beq_iff_eq,
    Bool.not_eq_true', Bool.not_eq_true, not_and, Classical.not_imp, ne_eq]
  tauto

theorem create_of_accepts {name : String} {override : Value} (h : Accepts name override) :
    r.create (.text name) override =
      { registry := { r with commands := r.commands ++ [{ name, standing := .listed }] }
        result := .ok (some r.commands.length)
        logs := { event := .registering name } ::
          if (r.get? name).isSome then [{ event := .duplicate name }] else [] } := by
  rw [create, if_neg fun hrefuses => refuses_iff.mp hrefuses h]

theorem create_of_not_accepts {name : String} {override : Value} (h : ¬ Accepts name override) :
    r.create (.text name) override = r.refuse (.command .nameTooShort) := by
  rw [create, if_pos (refuses_iff.mpr h)]

/-- A creation gives the next number exactly if the name is accepted. -/
theorem create_eq_ok (name : String) (override : Value) :
    (r.create (.text name) override).result = .ok (some r.commands.length) ↔
      Accepts name override := by
  by_cases h : Accepts name override
  · simp [create_of_accepts r h, h]
  · simp [create_of_not_accepts r h, refuse, h]

theorem create_effect (name override : Value) :
    Effect r (r.create name override).registry (r.deal (.create name override)) := by
  rw [deal, apply]
  cases name with
  | text name =>
      by_cases haccepts : Accepts name override
      · rw [create_of_accepts r haccepts]
        exact .create haccepts rfl
      · rw [create_of_not_accepts r haccepts]
        exact .idle rfl rfl rfl
  | _ => exact .idle rfl rfl rfl

theorem make_effect (name : Value) :
    Effect r (r.make name).registry (r.deal (.make name)) := by
  rw [deal, apply]
  cases name with
  | text name =>
      by_cases hempty : name.isEmpty = true
      · rw [make, if_pos hempty]
        exact .idle rfl rfl rfl
      · rw [make, if_neg hempty]
        exact .make (by simpa using hempty) rfl
  | _ => exact .idle rfl rfl rfl

theorem remove_effect (id : CommandId) :
    Effect r (r.remove id).registry (r.deal (.remove id)) := by
  rw [deal, apply, remove]
  cases hc : r.command? id with
  | none => exact .idle rfl rfl rfl
  | some c => exact .remove hc (update_commands hc _)

theorem destroy_effect (id : CommandId) :
    Effect r (r.destroy id).registry (r.deal (.destroy id)) := by
  rw [deal, apply, destroy]
  cases hc : r.command? id with
  | none => exact .idle rfl rfl rfl
  | some c =>
      by_cases hgone : c.isDestroyed = true
      · simp only [hgone, if_true]
        exact .idle rfl rfl rfl
      · simp only [hgone]
        exact .destroy hc (by simpa using hgone) (update_commands hc _)

/-- A declaration, made for any deal that neither creates nor drops a command. -/
theorem declare_effect {d : Deal} (hcreated : d.created? = none) (hdropped : d.dropped? = none)
    (id : CommandId) (declaration : Declaration) :
    Effect r (r.declare id declaration).registry d := by
  rw [declare]
  cases hc : r.command? id with
  | none => exact .idle hcreated hdropped rfl
  | some c =>
      cases hdeclare : c.declare declaration with
      | error e =>
          simp only [hdeclare]
          exact .idle hcreated hdropped rfl
      | ok c' =>
          simp only [hdeclare]
          exact .declare hcreated hdropped hc hdeclare (update_commands hc _)

theorem register_effect (id : CommandId) (argument : Option Argument) :
    Effect r (r.register id argument).registry (r.deal (.register id argument)) := by
  have hdeclared := r.declare_effect (d := r.deal (.register id argument)) rfl rfl id
    (.argument (argument.map fun _ => r.arguments.length))
  refine hdeclared.congr ?_
  unfold register
  dsimp only
  split <;> rfl

theorem rebuild_effect (id : ArgumentId) (call : Build) :
    Effect r (r.rebuild id call).registry (r.deal (.rebuild id call)) := by
  rw [deal, apply, rebuild]
  split
  · exact .idle rfl rfl rfl
  · exact .idle rfl rfl rfl

/-- **All that an operation can do to the commands.** -/
theorem apply_effect (op : Operation) : Effect r (r.apply op).registry (r.deal op) := by
  cases op with
  | create name override => exact r.create_effect name override
  | make name => exact r.make_effect name
  | remove id => exact r.remove_effect id
  | destroy id => exact r.destroy_effect id
  | declare id declaration => exact r.declare_effect rfl rfl id declaration
  | register id argument => exact r.register_effect id argument
  | rebuild id call => exact r.rebuild_effect id call

end

end Registry

end Switchboard
