import Mathlib.Data.List.Induction
import Switchboard.Proofs.Names
import Switchboard.Proofs.Session
import Switchboard.Rehearsal

/-!
# Proofs — Changes

What can be done to a registry, and what it comes to.  A change of a registry is an operation or the
installation of the handbook, and nothing else changes it: not a line, not a question, not a
handler.  So what all changes in a row keep to holds wherever a switchboard can get.

* `Change`, `changeAll`: changes in a row.
* `Births`, `exists_birth`: every command was brought about by one of the changes, under its name.
* `wellNamed_changeAll`: all commands stay well named.
* `apply_refused`: an operation that is refused is refused as a whole, a call on an argument apart.
* `Command.Addable`, `declare_addAliases`: names are added all of them or none.
* `Leads.exists_changes`: wherever moves lead, the registry went through changes in a row.
* `names_of_changes`: names and refusals, wherever changes lead.
-/

namespace Switchboard

variable {σ : Type}

/-- A change of a registry. -/
inductive Change where
  | operate (operation : Operation)
  /-- Adds `help` and `man`. -/
  | install

/-! ### Adding names -/

namespace Command

/-- Names can be added to a command: they are texts that are not empty, that are new to the command,
and that differ from each other. -/
structure Addable (c : Command) (values : List Value) (added : List String) : Prop where
  texts : values = added.map .text
  distinct : added.Nodup
  fresh : ∀ name ∈ added, name ≠ "" ∧ name ∉ c.names

/-- Names that are new pass the check. -/
theorem checkAliases_eq_ok {name : String} {seen added : List String} (hnodup : added.Nodup)
    (hadded : ∀ other ∈ added, other ≠ "" ∧ other ≠ name ∧ other ∉ seen) :
    checkAliases name seen (added.map .text) = .ok added := by
  induction added generalizing seen with
  | nil => rfl
  | cons other more ih =>
      obtain ⟨hne, hname, hseen⟩ := hadded other (.head _)
      obtain ⟨hfirst, hmore⟩ := List.nodup_cons.mp hnodup
      have hrest : checkAliases name (other :: seen) (more.map .text) = .ok more := by
        refine ih hmore fun later hlater => ?_
        obtain ⟨h₁, h₂, h₃⟩ := hadded later (.tail _ hlater)
        refine ⟨h₁, h₂, fun hmem => ?_⟩
        rcases List.mem_cons.mp hmem with rfl | hmem
        · exact hfirst hlater
        · exact h₃ hmem
      rw [List.map_cons, checkAliases, if_neg (by simpa using hne), if_neg hname,
        if_neg (by simpa using hseen), hrest]
      rfl

/-- Names that pass the check are texts, and the names are what they say. -/
theorem texts_of_checkAliases {name : String} {seen added : List String} {values : List Value}
    (h : checkAliases name seen values = .ok added) : values = added.map .text := by
  induction values generalizing seen added with
  | nil =>
      cases h
      rfl
  | cons value values ih =>
      cases value with
      | text other =>
          rw [checkAliases] at h
          split at h
          · cases h
          split at h
          · cases h
          split at h
          · cases h
          cases hmore : checkAliases name (other :: seen) values with
          | error e =>
              rw [hmore] at h
              cases h
          | ok more =>
              rw [hmore] at h
              cases h
              rw [List.map_cons, ih hmore]
      | _ => cases h

/-- **Names are added all of them or none.** -/
theorem declare_addAliases {c : Command} (halive : c.isDestroyed = false) (values : List Value) :
    (∃ added, c.Addable values added ∧
      c.declare (.addAliases values) = .ok { c with aliases := c.aliases ++ added }) ∨
    ((∀ added, ¬ c.Addable values added) ∧ ∃ e, c.declare (.addAliases values) = .error e) := by
  have hdeclare : c.declare (.addAliases values) =
      (checkAliases c.name c.aliases values).map fun added =>
        { c with aliases := c.aliases ++ added } := by
    simp [declare, halive]
  rw [hdeclare]
  cases hchecked : checkAliases c.name c.aliases values with
  | ok added =>
      obtain ⟨hnodup, hadded⟩ := checkAliases_ok hchecked
      refine .inl ⟨added, ⟨texts_of_checkAliases hchecked, hnodup, fun name hname => ?_⟩, rfl⟩
      obtain ⟨hne, hname, haliases⟩ := hadded name hname
      exact ⟨hne, by simp [names, hname, haliases]⟩
  | error e =>
      refine .inr ⟨fun added hadded => ?_, e, rfl⟩
      have hok : checkAliases c.name c.aliases (added.map .text) = .ok added := by
        refine checkAliases_eq_ok hadded.distinct fun other hother => ?_
        obtain ⟨hne, hnames⟩ := hadded.fresh other hother
        rw [names, List.mem_cons, not_or] at hnames
        exact ⟨hne, hnames⟩
      rw [← hadded.texts, hchecked] at hok
      cases hok

end Command

namespace Registry

/-! ### Refusals -/

section

variable (r : Registry) {e : Failure}

theorem declare_of_ok {id : CommandId} {c c' : Command} {d : Declaration}
    (hc : r.command? id = some c) (h : c.declare d = .ok c') :
    r.declare id d =
      { registry := r.update id fun _ => c', result := .ok none, logs := declarationLogs c d } := by
  simp only [declare, hc, h]

theorem declare_of_error {id : CommandId} {c : Command} {d : Declaration} {e : CommandError}
    (hc : r.command? id = some c) (h : c.declare d = .error e) :
    r.declare id d = r.refuse (.command e) := by
  simp only [declare, hc, h]

/-- Only what becomes of the command itself makes a difference to its update. -/
theorem update_congr {id : CommandId} {c : Command} {f g : Command → Command}
    (hc : r.command? id = some c) (h : f c = g c) : r.update id f = r.update id g := by
  have hsame : (r.update id f).commands = (r.update id g).commands := by
    rw [update_commands hc, update_commands hc, h]
  exact congrArg (fun commands => { r with commands }) hsame

theorem create_refused {name override : Value} (h : (r.create name override).result = .error e) :
    r.create name override = r.refuse e := by
  cases name with
  | text name =>
      by_cases haccepts : Accepts name override
      · rw [create_of_accepts r haccepts] at h
        cases h
      · rw [create_of_not_accepts r haccepts] at h ⊢
        cases h
        rfl
  | _ =>
      cases h
      rfl

theorem make_refused {name : Value} (h : (r.make name).result = .error e) :
    r.make name = r.refuse e := by
  cases name with
  | text name =>
      rw [make] at h ⊢
      split at h
      · rename_i hempty
        cases h
        rw [if_pos hempty]
      · cases h
  | _ =>
      cases h
      rfl

theorem remove_refused {id : CommandId} (h : (r.remove id).result = .error e) :
    r.remove id = r.refuse e := by
  unfold remove at h ⊢
  split at h
  · cases h
    rfl
  · cases h

theorem destroy_refused {id : CommandId} (h : (r.destroy id).result = .error e) :
    r.destroy id = r.refuse e := by
  unfold destroy at h ⊢
  split at h
  · cases h
    rfl
  · split at h
    · rename_i hgone
      cases h
      simp only [hgone, if_true]
    · cases h

theorem declare_refused {id : CommandId} {d : Declaration}
    (h : (r.declare id d).result = .error e) : r.declare id d = r.refuse e := by
  unfold declare at h ⊢
  split at h
  · cases h
    rfl
  · split at h
    · cases h
      rfl
    · cases h

theorem register_refused {id : CommandId} {argument : Option Argument}
    (h : (r.register id argument).result = .error e) : r.register id argument = r.refuse e := by
  unfold register at h ⊢
  dsimp only at h ⊢
  split at h
  · cases h
  · exact r.declare_refused h

/-- **An operation that is refused is refused as a whole**: it leaves the registry as it was, and
logs nothing.  A call on an argument is apart, since it may get half way. -/
theorem apply_refused {op : Operation} (hop : ∀ id call, op ≠ .rebuild id call)
    (h : (r.apply op).result = .error e) : r.apply op = r.refuse e := by
  cases op with
  | create name override => exact r.create_refused h
  | make name => exact r.make_refused h
  | remove id => exact r.remove_refused h
  | destroy id => exact r.destroy_refused h
  | declare id d => exact r.declare_refused h
  | register id argument => exact r.register_refused h
  | rebuild id call => exact absurd rfl (hop id call)

end

/-! ### Changes in a row -/

/-- The registry after a change. -/
def change (r : Registry) : Change → Registry
  | .operate operation => (r.apply operation).registry
  | .install => (Handbook.install r).1

/-- The registry after changes in a row. -/
def changeAll (r : Registry) (changes : List Change) : Registry := changes.foldl change r

@[simp] theorem changeAll_nil (r : Registry) : r.changeAll [] = r := rfl

@[simp] theorem changeAll_cons (r : Registry) (ch : Change) (chs : List Change) :
    r.changeAll (ch :: chs) = (r.change ch).changeAll chs := rfl

theorem changeAll_append (r : Registry) (chs chs' : List Change) :
    r.changeAll (chs ++ chs') = (r.changeAll chs).changeAll chs' :=
  List.foldl_append

/-- The registry after `help` is added, as the first half of the handbook. -/
def withHelp (r : Registry) : Registry :=
  (Handbook.add r Handbook.helpCommand Handbook.filterArgument).1

/-- The handbook is two commands at the end. -/
theorem withHelp_commands (r : Registry) :
    r.withHelp.commands = r.commands ++ [{ Handbook.helpCommand with
      standing := .listed, grammar := [r.arguments.length] }] := rfl

theorem change_install_commands (r : Registry) :
    (r.change .install).commands = r.withHelp.commands ++ [{ Handbook.manCommand with
      standing := .listed, grammar := [r.withHelp.arguments.length] }] := rfl

/-- **Changes keep all commands well named.** -/
theorem wellNamed_change {r : Registry} (hr : r.WellNamed) (ch : Change) :
    (r.change ch).WellNamed := by
  cases ch with
  | operate op => exact wellNamed_apply hr op
  | install =>
      have hhelp : r.withHelp.WellNamed :=
        hr.of_append r.withHelp_commands
          (Command.wellNamed_of_name (show "help" ≠ "" by decide) rfl)
      exact hhelp.of_append r.change_install_commands
        (Command.wellNamed_of_name (show "man" ≠ "" by decide) rfl)

theorem wellNamed_changeAll {r : Registry} (hr : r.WellNamed) (chs : List Change) :
    (r.changeAll chs).WellNamed := by
  induction chs generalizing r with
  | nil => exact hr
  | cons ch chs ih => exact ih (wellNamed_change hr ch)

/-! ### Where commands come from -/

/-- A change of a registry brings about a command under a number. -/
inductive Births (r : Registry) : Change → CommandId → Command → Prop where
  | create {name : String} {override : Value} (h : Accepts name override) :
      Births r (.operate (.create (.text name) override)) r.commands.length
        { name, standing := .listed }
  | make {name : String} (h : name ≠ "") :
      Births r (.operate (.make (.text name))) r.commands.length { name }
  | help :
      Births r .install r.commands.length
        { Handbook.helpCommand with standing := .listed, grammar := [r.arguments.length] }
  | man :
      Births r .install r.withHelp.commands.length
        { Handbook.manCommand with standing := .listed, grammar := [r.withHelp.arguments.length] }

end Registry

/-- A command stems from another one: it has the name of that one, and is of a registry only if that
one was. -/
structure Command.StemsFrom (c c₀ : Command) : Prop where
  name : c.name = c₀.name
  attached : c.isAttached = true → c₀.isAttached = true

namespace Command.StemsFrom

theorem rfl {c : Command} : c.StemsFrom c := ⟨Eq.refl _, id⟩

theorem trans {c c₁ c₂ : Command} (h : c.StemsFrom c₁) (h₁ : c₁.StemsFrom c₂) : c.StemsFrom c₂ :=
  ⟨h.name.trans h₁.name, h₁.attached ∘ h.attached⟩

theorem of_standing {c c₀ : Command} (hname : c.name = c₀.name)
    (hstanding : c.standing = c₀.standing) : c.StemsFrom c₀ :=
  ⟨hname, by simp [isAttached, hstanding]⟩

end Command.StemsFrom

namespace Registry

variable {r r' : Registry} {id : CommandId} {c : Command}

theorem command?_append_cases {c₁ : Command} (h : r'.commands = r.commands ++ [c₁])
    (hc : r'.command? id = some c) :
    r.command? id = some c ∨ id = r.commands.length ∧ c = c₁ := by
  rw [command?_of_append h] at hc
  split at hc
  · rename_i hid
    exact .inr ⟨hid, (Option.some.inj hc).symm⟩
  · exact .inl hc

theorem stems_of_set {j : CommandId} {c₀ c₁ : Command} (hc₀ : r.command? j = some c₀)
    (h : r'.commands = r.commands.set j c₁) (hstems : c₁.StemsFrom c₀)
    (hc : r'.command? id = some c) : ∃ c₀, r.command? id = some c₀ ∧ c.StemsFrom c₀ := by
  rw [command?_of_set hc₀ h] at hc
  split at hc
  · rename_i hid
    cases hc
    exact ⟨c₀, hid ▸ hc₀, hstems⟩
  · exact ⟨c, hc, .rfl⟩

/-- A command after an operation stems from one before, or the operation brought it about. -/
theorem stems_of_apply {op : Operation} (hc : (r.apply op).registry.command? id = some c) :
    (∃ c₀, r.command? id = some c₀ ∧ c.StemsFrom c₀) ∨ r.Births (.operate op) id c := by
  have heffect := r.apply_effect op
  generalize hd : r.deal op = d at heffect
  have hop : d.operation = op := congrArg Deal.operation hd.symm
  generalize (r.apply op).registry = r' at heffect hc
  cases heffect with
  | idle _ _ h =>
      rw [command?, h] at hc
      exact .inl ⟨c, hc, .rfl⟩
  | create haccepts h =>
      refine (command?_append_cases h hc).imp (fun hc => ⟨c, hc, .rfl⟩) ?_
      rintro ⟨rfl, rfl⟩
      exact hop ▸ .create haccepts
  | make hname h =>
      refine (command?_append_cases h hc).imp (fun hc => ⟨c, hc, .rfl⟩) ?_
      rintro ⟨rfl, rfl⟩
      exact hop ▸ .make hname
  | remove hc₀ h =>
      refine .inl (stems_of_set hc₀ h ?_ hc)
      split
      · rename_i hlisted
        exact ⟨rfl, fun _ => by simp_all [Command.isAttached, Command.isListed]⟩
      · exact .rfl
  | destroy hc₀ _ h =>
      exact .inl (stems_of_set hc₀ h ⟨rfl, fun hattached => Bool.noConfusion hattached⟩ hc)
  | declare _ _ hc₀ hdeclare h =>
      have hstems := Command.StemsFrom.of_standing (Command.declare_name hdeclare)
        (Command.declare_names hdeclare).1
      exact .inl (stems_of_set hc₀ h hstems hc)

theorem stems_of_change {ch : Change} (hc : (r.change ch).command? id = some c) :
    (∃ c₀, r.command? id = some c₀ ∧ c.StemsFrom c₀) ∨ r.Births ch id c := by
  cases ch with
  | operate op => exact stems_of_apply hc
  | install =>
      rcases command?_append_cases r.change_install_commands hc with hc | ⟨rfl, rfl⟩
      · rcases command?_append_cases r.withHelp_commands hc with hc | ⟨rfl, rfl⟩
        · exact .inl ⟨c, hc, .rfl⟩
        · exact .inr .help
      · exact .inr .man

/-- **Every command was brought about by one of the changes**, under its number, and stems from what
was brought about. -/
theorem exists_birth {chs : List Change} (hc : (changeAll {} chs).command? id = some c) :
    ∃ before ch after c₀, chs = before ++ ch :: after ∧
      (changeAll {} before).Births ch id c₀ ∧ c.StemsFrom c₀ := by
  -- The last change that could have brought it about did, or it was there before.
  induction chs using List.reverseRecOn generalizing c with
  | nil => cases hc
  | append_singleton chs ch ih =>
      rw [changeAll_append] at hc
      rcases stems_of_change hc with ⟨c₀, hc₀, hstems⟩ | hbirth
      · obtain ⟨before, ch', after, c₁, rfl, hbirth, hstems₁⟩ := ih hc₀
        exact ⟨before, ch', after ++ [ch], c₁, by simp, hbirth, hstems.trans hstems₁⟩
      · exact ⟨chs, ch, [], c, rfl, hbirth, .rfl⟩

/-- What accounts for a command with a name of one letter: a change that created it under the
override, or one that made it without a registry, and then it still is of none. -/
inductive Accounted (chs : List Change) (id : CommandId) (c : Command) : Prop where
  | override {before after : List Change} {override : Value}
      (hchs : chs = before ++ .operate (.create (.text c.name) override) :: after)
      (hid : (changeAll {} before).commands.length = id)
      (h : override.isText oneCharOverride = true) : Accounted chs id c
  | loose {before after : List Change}
      (hchs : chs = before ++ .operate (.make (.text c.name)) :: after)
      (hid : (changeAll {} before).commands.length = id)
      (h : c.isAttached = false) : Accounted chs id c

/-- **A name of one letter is accounted for.** -/
theorem accounted_of_length {chs : List Change} (hc : (changeAll {} chs).command? id = some c)
    (hone : c.name.length = 1) : Accounted chs id c := by
  obtain ⟨before, ch, after, c₀, hchs, hbirth, hname, hattached⟩ := exists_birth hc
  rw [hname] at hone
  cases hbirth with
  | create haccepts => exact .override (by rw [hname]; exact hchs) rfl (haccepts.2 hone)
  | make hne =>
      have hloose : c.isAttached = false :=
        Bool.eq_false_iff.mpr fun h => Bool.noConfusion (hattached h)
      exact .loose (by rw [hname]; exact hchs) rfl hloose
  | help => exact absurd hone (show "help".length ≠ 1 by decide)
  | man => exact absurd hone (show "man".length ≠ 1 by decide)

end Registry

/-! ### Worlds -/

/-- An operation that is refused leaves the world as it was, a call on an argument apart. -/
theorem Run.after_operate_refused {operation : Operation}
    (hop : ∀ id call, operation ≠ .rebuild id call) {w : World σ} {e : Failure}
    (h : (Run.operate operation).result w = .error e) : (Run.operate operation).after w = w := by
  rw [Run.result_operate] at h
  rw [Run.after_operate, Registry.apply_refused w.registry hop h]
  simp [Registry.refuse]

/-- Adds names to a command. -/
def Run.addAliases (id : CommandId) (values : List Value) : Run σ (Option Nat) :=
  operate (.declare id (.addAliases values))

/-- **Names are added to a command all of them or none.** -/
theorem World.addAliases_all_or_none (w : World σ) {id : CommandId} {c : Command}
    (hc : w.registry.command? id = some c) (values : List Value) (halive : c.isDestroyed = false) :
    (∃ added, c.Addable values added ∧ (Run.addAliases id values).result w = .ok none ∧
      (Run.addAliases id values).after w = { w with
        registry := w.registry.update id fun c => { c with aliases := c.aliases ++ added } }) ∨
    (∀ added, ¬ c.Addable values added) ∧
      (∃ e, (Run.addAliases id values).result w = .error e) ∧
      (Run.addAliases id values).after w = w := by
  unfold Run.addAliases
  rcases Command.declare_addAliases halive values with ⟨added, hadded, hok⟩ | ⟨hnone, e, hrefused⟩
  · refine .inl ⟨added, hadded, ?_⟩
    rw [Run.result_operate, Run.after_operate, Registry.apply,
      w.registry.declare_of_ok hc hok]
    have hsame : w.registry.update id (fun _ => { c with aliases := c.aliases ++ added }) =
        w.registry.update id fun c => { c with aliases := c.aliases ++ added } :=
      w.registry.update_congr hc rfl
    simp [hsame, Registry.declarationLogs]
  · have hresult : (Run.operate (.declare id (.addAliases values))).result w =
        .error (.command e) := by
      rw [Run.result_operate, Registry.apply, w.registry.declare_of_error hc hrefused]
      rfl
    have hkept := Run.after_operate_refused (fun _ _ => Operation.noConfusion) hresult
    exact .inr ⟨hnone, ⟨_, hresult⟩, hkept⟩

/-- **Nothing but changes changes a registry**: wherever moves lead, the registry went through
changes in a row. -/
theorem Leads.exists_changes {u v : World σ} (h : Leads u v) :
    ∃ chs, v.registry = u.registry.changeAll chs := by
  induction h with
  | refl => exact ⟨[], rfl⟩
  | @tail v w _ hmove ih =>
      obtain ⟨chs, hv⟩ := ih
      have hchange : w.registry = v.registry ∨ ∃ ch, w.registry = v.registry.change ch := by
        cases hmove with
        | log | remember | sent | called => exact .inl rfl
        | operate operation => exact .inr ⟨.operate operation, by rw [Run.after_operate]; rfl⟩
        | install => exact .inr ⟨.install, rfl⟩
      rcases hchange with hw | ⟨ch, hw⟩
      · exact ⟨chs, hw.trans hv⟩
      · exact ⟨chs ++ [ch], by rw [hw, hv, Registry.changeAll_append]; rfl⟩

/-- **Names and refusals, wherever changes lead.**  The names of each command are not empty and
differ from each other, and one of one letter is accounted for.  An operation that is refused, a
call on an argument apart, leaves everything as it was.  Names are added to a command that was not
destroyed all of them or none.  And so it stays at every moment of every session, whatever handlers
do, since the registry goes on by further changes. -/
theorem names_of_changes (s : Setup σ) {w : World σ} {chs : List Change}
    (hw : w.registry = Registry.changeAll {} chs) :
    (∀ id c, w.registry.command? id = some c →
      (∀ name ∈ c.names, name ≠ "") ∧ c.names.Nodup ∧
      (c.name.length = 1 → Registry.Accounted chs id c)) ∧
    (∀ operation e, (∀ id call, operation ≠ .rebuild id call) →
      (Run.operate operation).result w = .error e → (Run.operate operation).after w = w) ∧
    (∀ id c values, w.registry.command? id = some c → c.isDestroyed = false →
      (∃ added, c.Addable values added ∧ (Run.addAliases id values).result w = .ok none ∧
        (Run.addAliases id values).after w = { w with
          registry := w.registry.update id fun c => { c with aliases := c.aliases ++ added } }) ∨
      (∀ added, ¬ c.Addable values added) ∧
        (∃ e, (Run.addAliases id values).result w = .error e) ∧
        (Run.addAliases id values).after w = w) ∧
    s.MadeOfMoves ∧ ∀ v, Leads w v → ∃ more, v.registry = Registry.changeAll {} (chs ++ more) := by
  refine ⟨fun id c hc => ?_, fun operation e hop => Run.after_operate_refused hop,
    fun id c values hc => w.addAliases_all_or_none hc values, s.madeOfMoves, fun v hv => ?_⟩
  · rw [hw] at hc
    have hnamed := Registry.wellNamed_changeAll Registry.wellNamed_empty chs id c hc
    exact ⟨hnamed.nonempty, hnamed.distinct, Registry.accounted_of_length hc⟩
  · obtain ⟨more, hmore⟩ := hv.exists_changes
    exact ⟨more, by rw [hmore, hw, Registry.changeAll_append]⟩

/-- A name of one letter under the override, and two names of which one is the command's own. -/
theorem names_of_changes_rehearsed :
    let s : Setup Rehearsal.Cast := { host := Rehearsal.host fun _ => "" }
    let chs : List Change := [.operate (.create (.text "ale") .unset),
      .operate (.create (.text "b") (.text Registry.oneCharOverride))]
    let w : World Rehearsal.Cast := { registry := Registry.changeAll {} chs, memory := {} }
    let short : Command := { name := "b", standing := .listed }
    let naming : Run Rehearsal.Cast (Option Nat) := Run.addAliases 0 [.text "a", .text "ale"]
    w.registry.command? 1 = some short ∧ Registry.Accounted chs 1 short ∧
      naming.result w = .error (.command (.aliasIsName "ale")) ∧ naming.after w = w ∧
      ∀ es, ∃ more, ((s.errands es).after w).registry = Registry.changeAll {} (chs ++ more) := by
  intro s chs w short naming
  have hshort : w.registry.command? 1 = some short := rfl
  have hrefused : naming.result w = .error (.command (.aliasIsName "ale")) := rfl
  have hlength : short.name.length = 1 := show "b".length = 1 by decide
  have hw : w.registry = Registry.changeAll {} chs := rfl
  obtain ⟨hnames, hrefusals, -, hmoves, hlater⟩ := names_of_changes s hw
  exact ⟨hshort, (hnames 1 short hshort).2.2 hlength, hrefused,
    hrefusals _ _ (fun _ _ => Operation.noConfusion) hrefused,
    fun es => hlater _ (hmoves.session es w)⟩

end Switchboard
