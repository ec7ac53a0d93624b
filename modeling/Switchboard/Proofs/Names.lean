import Switchboard.Proofs.Effects
import Switchboard.Proofs.History

/-!
# Proofs — Names

The names of the commands of a registry.  Whatever is tried on a registry, every command that it
knows has a name and aliases that are not empty and differ from each other.

* `Command.WellNamed`: names that are not empty and differ from each other.
* `wellNamed_apply`, `wellNamed_applyAll`: an operation keeps all commands well named, and so do
  operations in a row.
-/

namespace Switchboard

/-- The names of a command are not empty, and differ from each other. -/
structure Command.WellNamed (c : Command) : Prop where
  nonempty : ∀ name ∈ c.names, name ≠ ""
  distinct : c.names.Nodup

namespace Command

/-- A command is well named under a name that is not empty, as long as it has no alias. -/
theorem wellNamed_of_name {c : Command} (hname : c.name ≠ "") (haliases : c.aliases = []) :
    c.WellNamed := by
  have hnames : c.names = [c.name] := by rw [names, haliases]
  constructor
  · rw [hnames]
    simpa using hname
  · rw [hnames]
    exact List.nodup_singleton _

/-- Names that are added keep a command well named. -/
theorem WellNamed.declare {c c' : Command} {d : Declaration} (hc : c.WellNamed)
    (h : c.declare d = .ok c') : c'.WellNamed := by
  obtain ⟨-, added, hnames, hnodup, hadded⟩ := declare_names h
  constructor
  · intro name hname
    rw [hnames] at hname
    exact (List.mem_append.mp hname).elim (hc.nonempty name) fun hmem => (hadded name hmem).1
  · rw [hnames, List.nodup_append']
    exact ⟨hc.distinct, hnodup, fun name hold hnew => (hadded name hnew).2 hold⟩

end Command

namespace Registry

/-- All commands of the registry are well named. -/
def WellNamed (r : Registry) : Prop := ∀ id c, r.command? id = some c → c.WellNamed

theorem wellNamed_empty : WellNamed {} := by
  intro id c hc
  cases hc

section

variable {r r' : Registry} (hr : r.WellNamed)

include hr

theorem WellNamed.of_append {c : Command} (h : r'.commands = r.commands ++ [c])
    (hc : c.WellNamed) : r'.WellNamed := by
  intro j d hd
  rw [command?_of_append h] at hd
  split at hd
  · cases hd
    exact hc
  · exact hr j d hd

theorem WellNamed.of_set {id : CommandId} {c c' : Command} (hc : r.command? id = some c)
    (h : r'.commands = r.commands.set id c') (hc' : c.WellNamed → c'.WellNamed) :
    r'.WellNamed := by
  intro j d hd
  rw [command?_of_set hc h] at hd
  split at hd
  · cases hd
    exact hc' (hr id c hc)
  · exact hr j d hd

/-- **An operation keeps all commands well named.** -/
theorem wellNamed_apply (op : Operation) : (r.apply op).registry.WellNamed := by
  have heffect := r.apply_effect op
  generalize (r.apply op).registry = r', r.deal op = d at heffect
  cases heffect with
  | idle _ _ h =>
      intro j c hc
      rw [command?, h] at hc
      exact hr j c hc
  | create haccepts h => exact hr.of_append h (Command.wellNamed_of_name haccepts.1 rfl)
  | make hname h => exact hr.of_append h (Command.wellNamed_of_name hname rfl)
  | remove hc h =>
      refine hr.of_set hc h fun hnamed => ?_
      split
      · exact ⟨hnamed.nonempty, hnamed.distinct⟩
      · exact hnamed
  | destroy hc _ h =>
      exact hr.of_set hc h fun hnamed => ⟨hnamed.nonempty, hnamed.distinct⟩
  | declare _ _ hc hdeclare h => exact hr.of_set hc h fun hnamed => hnamed.declare hdeclare

end

/-- **Operations in a row keep all commands well named.** -/
theorem wellNamed_applyAll {r : Registry} (hr : r.WellNamed) (ops : List Operation) :
    (r.applyAll ops).WellNamed := by
  induction ops generalizing r with
  | nil => exact hr
  | cons op ops ih => exact ih (wellNamed_apply hr op)

end Registry

end Switchboard
