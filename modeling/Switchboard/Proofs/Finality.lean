import Switchboard.Proofs.Effects
import Switchboard.Proofs.Invocation
import Switchboard.Proofs.Session

/-!
# Proofs — Finality

A command that is destroyed stays destroyed.  No move brings it back, changes it or calls its
handler, so nothing that is made of moves does: no session, no handler, and no pass that had it
among its candidates before.

* `Registry.destroyed_apply`: no operation changes a destroyed command.
* `Move.final`, `Leads.final`: no move does, and none calls its handler.
* `Operation.IsCallOn`, `apply_of_destroyed`: every call on it is refused for that reason.
* `Setup.Final`: all that is left of a destroyed command.
* `final_of_destroy`: that is what is left of it ever after.
-/

namespace Switchboard

variable {σ : Type}

/-! ### Registries -/

/-- The operation is a call on a command itself. -/
inductive Operation.IsCallOn (id : CommandId) : Operation → Prop where
  | declare (d : Declaration) : IsCallOn id (.declare id d)
  | register (argument : Option Argument) : IsCallOn id (.register id argument)
  | destroy : IsCallOn id (.destroy id)

namespace Registry

variable {r r' : Registry} {id : CommandId} {c : Command}

section

variable (hc : r.command? id = some c)

include hc

/-- A command that is added is none of those before. -/
theorem command?_kept_of_append {c₁ : Command} (h : r'.commands = r.commands ++ [c₁]) :
    r'.command? id = some c := by
  rw [command?_of_append h, if_neg (Nat.ne_of_lt (lt_of_command? hc)), hc]

/-- A command is replaced by itself, or it is another one that is replaced. -/
theorem command?_kept_of_set {j : CommandId} {c₀ c₁ : Command} (hc₀ : r.command? j = some c₀)
    (h : r'.commands = r.commands.set j c₁) (hsame : j = id → c₁ = c) :
    r'.command? id = some c := by
  rw [command?_of_set hc₀ h]
  split
  · rename_i hj
    rw [hsame hj]
  · exact hc

/-- The handbook is added behind it. -/
theorem command?_install : (Handbook.install r).1.command? id = some c := by
  have hhelp : (Handbook.add r Handbook.helpCommand Handbook.filterArgument).1.command? id =
      some c := command?_kept_of_append hc rfl
  exact command?_kept_of_append hhelp rfl

variable (hdestroyed : c.isDestroyed = true)

include hdestroyed

/-- **No operation changes a destroyed command.** -/
theorem destroyed_apply (op : Operation) : (r.apply op).registry.command? id = some c := by
  have heffect := r.apply_effect op
  generalize (r.apply op).registry = r', r.deal op = d at heffect
  -- Whatever is done to a command of the same number is done to the destroyed one.
  have same : ∀ {j c₀}, r.command? j = some c₀ → j = id → c₀ = c := by
    rintro j c₀ hc₀ rfl
    exact Option.some.inj (hc₀.symm.trans hc)
  cases heffect with
  | idle _ _ h => rw [command?, h, ← command?, hc]
  | create _ h | make _ h => exact command?_kept_of_append hc h
  | remove hc₀ h =>
      refine command?_kept_of_set hc hc₀ h fun hj => ?_
      cases same hc₀ hj
      rw [if_neg]
      simp_all [Command.isListed, Command.isDestroyed]
  | destroy hc₀ halive h =>
      refine command?_kept_of_set hc hc₀ h fun hj => ?_
      cases same hc₀ hj
      cases halive.symm.trans hdestroyed
  | declare _ _ hc₀ hdeclare h =>
      refine command?_kept_of_set hc hc₀ h fun hj => ?_
      cases same hc₀ hj
      simp [Command.declare, hdestroyed] at hdeclare

/-- **Every call on a destroyed command is refused** for that reason. -/
theorem apply_of_destroyed {op : Operation} (hop : op.IsCallOn id) :
    r.apply op = r.refuse (.command (.destroyed c.name)) := by
  have hdeclare (d : Declaration) : r.declare id d = r.refuse (.command (.destroyed c.name)) := by
    simp [Registry.declare, hc, Command.declare, hdestroyed]
  cases hop with
  | declare d => exact hdeclare d
  | register argument => simp [apply, register, hdeclare, refuse]
  | destroy => simp [apply, destroy, hc, hdestroyed]

/-- A destroyed command is in no listing. -/
theorem destroyed_not_mem_listedWhere (p : Command → Bool) : id ∉ r.listedWhere p := by
  intro hid
  obtain ⟨c', hc', hlisted, -⟩ := mem_listedWhere.mp hid
  cases hc.symm.trans hc'
  simp_all [Command.isListed, Command.isDestroyed]

end

/-- A destruction that succeeds leaves the command as it was, but for its standing. -/
theorem command?_of_destroy {result : Option Nat}
    (hresult : (r.apply (.destroy id)).result = .ok result) :
    ∃ c, r.command? id = some c ∧
      (r.apply (.destroy id)).registry.command? id = some { c with standing := .destroyed } := by
  have heffect := r.apply_effect (.destroy id)
  rw [deal, hresult] at heffect
  generalize (r.apply (.destroy id)).registry = r' at heffect ⊢
  cases heffect with
  | idle _ hdropped _ => cases hdropped
  | destroy hc _ h => exact ⟨_, hc, by rw [command?_of_set hc h, if_pos rfl]⟩
  | declare _ hdropped => cases hdropped

end Registry

/-! ### Moves -/

/-- The handler of a command is called, at whatever depth. -/
def Entry.Calls (id : CommandId) : Entry → Prop
  | .called _ command _ _ => command = id
  | _ => False

section

variable {u v : World σ} {id : CommandId} {c : Command} (hc : u.registry.command? id = some c)
  (hdestroyed : c.isDestroyed = true)

include hc hdestroyed

/-- **No move changes a destroyed command or calls its handler.** -/
theorem Move.final (h : Move u v) :
    v.registry.command? id = some c ∧ Adds (fun e => ¬ e.Calls id) u v := by
  cases h with
  | log record => exact ⟨hc, Calm.adds ⟨rfl, u.deeds_append_log record⟩⟩
  | remember memory => exact ⟨hc, Calm.adds ⟨rfl, rfl⟩⟩
  | sent depth origin sink text failure =>
      exact ⟨hc, _, u.deeds_append_deed rfl, by simp [Entry.Calls]⟩
  | @called j c' hc' halive depth call =>
      refine ⟨hc, _, u.deeds_append_deed rfl, ?_⟩
      -- A command that is called was not destroyed.
      have hother : j ≠ id := by
        rintro rfl
        cases hc.symm.trans hc'
        cases halive.symm.trans hdestroyed
      simpa [Entry.Calls] using hother
  | operate operation =>
      refine ⟨?_, Setup.operate_adds _ operation u⟩
      rw [Run.after_operate]
      exact Registry.destroyed_apply hc hdestroyed operation
  | install =>
      exact ⟨Registry.command?_install hc, [],
        (World.deeds_append_logs _ _ _).trans (List.append_nil _).symm, by simp⟩

/-- **Nothing that is made of moves does**: no act, no turn, no pass, no session. -/
theorem Leads.final (h : Leads u v) :
    v.registry.command? id = some c ∧ Adds (fun e => ¬ e.Calls id) u v := by
  induction h with
  | refl => exact ⟨hc, refl _⟩
  | tail _ hmove ih =>
      obtain ⟨hkept, hadds⟩ := ih
      obtain ⟨hkept', hadds'⟩ := hmove.final hkept hdestroyed
      exact ⟨hkept', IsTrans.trans _ _ _ hadds hadds'⟩

end

/-! ### What is left of a destroyed command -/

namespace Setup

variable {s : Setup σ}

/-- The commands that a client may use are some of those that are asked about. -/
theorem permitted_sublist {client : Client} {ids found : List CommandId} {w : World σ}
    (h : (s.permitted client ids).result w = .ok found) : found.Sublist ids := by
  induction ids generalizing w found with
  | nil =>
      cases h
      exact .slnil
  | cons id ids ih =>
      rw [permitted, Run.result_bind_ok (Run.result_get w)] at h
      cases hc : w.registry.command? id with
      | none =>
          rw [Run.after_get, hc] at h
          exact (ih h).cons _
      | some c =>
          simp only [Run.after_get, hc] at h
          obtain ⟨allowed, -, h⟩ := Run.result_bind_eq_ok.mp h
          obtain ⟨more, hmore, h⟩ := Run.result_bind_eq_ok.mp h
          cases allowed with
          | true =>
              cases h
              exact (ih hmore).cons_cons _
          | false =>
              cases h
              exact (ih hmore).cons _

/-- **What is left of a destroyed command** in the world `v`. -/
structure Final (s : Setup σ) (id : CommandId) (c : Command) (v : World σ) : Prop where
  kept : v.registry.command? id = some c
  destroyed : c.isDestroyed = true
  detached : c.isAttached = false
  unlisted : id ∉ v.registry.order
  ungot : ∀ name, v.registry.get? name ≠ some id
  unfound : ∀ token, id ∉ v.registry.find token
  unavailable : ∀ client name ids, (s.available client name).result v = .ok ids → id ∉ ids
  /-- Calls on it are refused, and change nothing at all. -/
  refused : ∀ operation : Operation, operation.IsCallOn id →
    (Run.operate operation).result v = .error (.command (.destroyed c.name)) ∧
      (Run.operate operation).after v = v
  /-- So is a direct call of its handler, if replies have somewhere to go. -/
  uncallable : ∀ event target record, s.target event = .ok target →
    (s.callDirectly id event record).result v = .error (.command (.destroyed c.name)) ∧
      (s.callDirectly id event record).after v = v
  /-- A turn that comes now calls it no more, in whatever pass it was a candidate. -/
  unattended : ∀ depth event text, let turn := s.attend depth (s.below depth) event text id
    (turn.result v).invoked = false ∧ ∀ e ∈ turn.deeds v, ¬ e.Calls id

section

variable {v : World σ} {id : CommandId} {c : Command} (hc : v.registry.command? id = some c)
  (hdestroyed : c.isDestroyed = true)

include hc hdestroyed

theorem callDirectly_of_destroyed {event : Event} {target : Target} {record : Record}
    (htarget : s.target event = .ok target) :
    (s.callDirectly id event record).result v = .error (.command (.destroyed c.name)) ∧
      (s.callDirectly id event record).after v = v := by
  simp [callDirectly, Run.result_bind, Run.after_bind, hc, htarget, hdestroyed]

/-- The turn of a destroyed command calls nobody, and says so. -/
theorem attend_of_destroyed (depth : Nat) (event : Event) (text : List Char) :
    ((s.attend depth (s.below depth) event text id).result v).invoked = false ∧
      ∀ e ∈ (s.attend depth (s.below depth) event text id).deeds v, ¬ e.Calls id := by
  obtain ⟨r, hr, hsettles⟩ := attend_ends s depth event text id v
  constructor
  · rw [hr]
    rcases hsettles.invoked with ⟨-, ⟨x, hone, -⟩, -⟩ | ⟨hinvoked, -⟩ | ⟨-, -, -, hstranded⟩
    · rcases hsettles.calls_eq with ⟨hnone, -⟩ | ⟨c', o, target, hready, -⟩
      · cases hnone.symm.trans hone
      · exact absurd hready (not_ready_of_gone hc hdestroyed)
    · exact hinvoked
    · exact absurd hstranded (not_stranded_of_gone hc hdestroyed)
  · obtain ⟨-, added, hadded, hnot⟩ :=
      Leads.final hc hdestroyed (attend_leads (below_leads depth) depth event text id v)
    rw [Step.deeds_eq hadded]
    exact hnot

theorem final_of_destroyed : s.Final id c v where
  kept := hc
  destroyed := hdestroyed
  detached := by simp_all [Command.isDestroyed, Command.isAttached]
  unlisted := Registry.destroyed_not_mem_listedWhere hc hdestroyed _
  ungot name h :=
    Registry.destroyed_not_mem_listedWhere hc hdestroyed _ (List.mem_of_mem_head? h)
  unfound token := Registry.destroyed_not_mem_listedWhere hc hdestroyed _
  unavailable client name ids h hid := by
    rw [available, Run.result_bind_ok (Run.result_get v)] at h
    exact Registry.destroyed_not_mem_listedWhere hc hdestroyed _ ((permitted_sublist h).subset hid)
  refused operation hop := by
    rw [Run.result_operate, Run.after_operate, Registry.apply_of_destroyed hc hdestroyed hop]
    simp [Registry.refuse]
  uncallable event target record htarget := callDirectly_of_destroyed hc hdestroyed htarget
  unattended depth event text := attend_of_destroyed hc hdestroyed depth event text

end

/-- **Destruction is final.**  Wherever moves lead after a command was destroyed, its fields are
those that it had, but for the standing, this is what is left of it, and its handler was not called
since.  Everything that is still to come is made of moves, be it the rest of the handler that
destroyed the command, or of the pass that is under way, or of the session. -/
theorem final_of_destroy (s : Setup σ) {u : World σ} {id : CommandId} {result : Option Nat}
    (hdestroy : (Run.operate (.destroy id)).result u = .ok result) :
    s.MadeOfMoves ∧ ∃ c, u.registry.command? id = some c ∧
      ∀ v, Leads ((Run.operate (.destroy id)).after u) v →
        s.Final id { c with standing := .destroyed } v ∧
          Adds (fun e => ¬ e.Calls id) ((Run.operate (.destroy id)).after u) v := by
  rw [Run.result_operate] at hdestroy
  obtain ⟨c, hc, hgone⟩ := Registry.command?_of_destroy hdestroy
  refine ⟨s.madeOfMoves, c, hc, fun v hv => ?_⟩
  rw [Run.after_operate] at hv ⊢
  obtain ⟨hkept, hadds⟩ := hv.final hgone rfl
  exact ⟨final_of_destroyed hkept rfl, hadds⟩

/-- A session goes on after a command was destroyed: the line is for another one now. -/
theorem final_of_destroy_rehearsed :
    let s : Setup Rehearsal.Cast := { host := Rehearsal.host fun _ => "" }
    let ale : Command := { name := "ale", standing := .listed }
    let u : World Rehearsal.Cast := { registry := { commands := [ale, ale] }, memory := {} }
    let destroy : Run Rehearsal.Cast (Option Nat) := Run.operate (.destroy 1)
    let v := (s.errands [.dispatch { text := .text "!ale", client := { name := "ann" } }]).after
      (destroy.after u)
    destroy.result u = .ok none ∧ s.Final 1 { ale with standing := .destroyed } v := by
  intro s ale u destroy v
  have hdestroy : destroy.result u = .ok none := rfl
  obtain ⟨hmoves, c, hc, hfinal⟩ := final_of_destroy s hdestroy
  have hale : c = ale := (Option.some.inj hc).symm
  rw [← hale]
  exact ⟨hdestroy, (hfinal v (hmoves.session _ _)).1⟩

end Setup

end Switchboard
