import Switchboard.Proofs.History

/-!
# Proofs — Making

The arguments that there can be.  An argument comes from one of the factories, and is then called
builders on, any number of them, each accepted or refused.  What is said about arguments of a
grammar is said about these.

* `Argument.Made`: an argument that can be made.
* `Made.fallback?_ne_unset`: a fallback is never the unset value, which stands for having none.
* `Supply`, `apply_supply`: all that an operation can do to the arguments of a registry.
* `made_apply`, `made_applyAll`: whatever is done to a registry, its arguments were made, if those
  that are handed over were.
-/

namespace Switchboard

/-- The arguments that a call hands over. -/
def Build.members : Build → List Argument
  | .add members => members.filterMap id
  | _ => []

namespace Argument

/-- An argument that can be made.  A call that is refused may have changed the argument before. -/
inductive Made : Argument → Prop where
  | primitive {kind name display : Value} {a : Argument} (h : make kind name display = .ok a) :
      Made a
  | group {combinator name display : Value} {a : Argument}
      (h : makeGroup combinator name display = .ok a) : Made a
  | bare {name display : Value} {a : Argument} (h : makeBare name display = .ok a) : Made a
  | build {a : Argument} (h : Made a) (call : Build) (hmembers : ∀ m ∈ call.members, Made m) :
      Made (a.build call).argument

/-! ### The fallback -/

@[simp] theorem label_withLabel (a : Argument) (label : Label) :
    (a.withLabel label).label = label := by
  cases a <;> rfl

/-- Naming an argument does not change whether it may be left out, and with what in its place. -/
theorem setName_need (a : Argument) (name display : Value) :
    (a.setName name display).argument.label.need = a.label.need := by
  unfold setName
  split
  · rfl
  · split <;> simp

/-- **What a call does to the need of an argument**: it keeps it, or it lets the argument be left
out, with the value that is given in its place unless that is the unset one. -/
theorem build_need (a : Argument) (call : Build) :
    (a.build call).argument.label.need = a.label.need ∨
      ∃ fallback ≠ some .unset, (a.build call).argument.label.need = .optional fallback := by
  unfold build
  split
  · exact .inl (a.setName_need _ _)
  · rename_i fallback
    refine .inr ⟨_, ?_, congrArg Label.need (a.label_withLabel _)⟩
    cases fallback <;> simp
  -- What is left are calls on demands, which are accepted or refused, and calls of no use.
  case h_7 => exact .inl rfl
  all_goals
    split
    all_goals exact .inl rfl

theorem fallback?_of_need {a b : Argument} (h : b.label.need = a.label.need) :
    b.fallback? = a.fallback? := by
  rw [fallback?, fallback?, h]

theorem named_need {a b : Argument} {name display : Value} (h : a.named name display = .ok b) :
    b.label.need = a.label.need := by
  unfold named at h
  split at h
  · cases h
    rfl
  · have hneed := a.setName_need name display
    split at h
    · rename_i hset
      cases h
      rw [hset] at hneed
      exact hneed
    · cases h

theorem named_fallback? {a b : Argument} {name display : Value} (h : a.named name display = .ok b) :
    b.fallback? = a.fallback? :=
  fallback?_of_need (named_need h)

/-- What comes from a factory may not be left out. -/
theorem need_of_make {kind name display : Value} {a : Argument}
    (h : make kind name display = .ok a) : a.label.need = .required := by
  unfold make at h
  split at h
  · split at h
    · rename_i kind _
      rw [named_need h]
      cases kind <;> rfl
    · cases h
  · cases h

/-- **A fallback is never the unset value.** -/
theorem Made.fallback?_ne_unset {a : Argument} (h : a.Made) : a.fallback? ≠ some .unset := by
  induction h with
  | primitive h =>
      rw [fallback?, need_of_make h]
      exact nofun
  | group h =>
      unfold makeGroup at h
      split at h
      · dsimp only at h
        split at h
        · rw [named_fallback? h]
          exact nofun
        · cases h
      · cases h
  | bare h =>
      rw [named_fallback? h]
      exact nofun
  | @build a _ call _ ih _ =>
      rcases a.build_need call with hneed | ⟨fallback, hne, hneed⟩
      · rw [fallback?_of_need hneed]
        exact ih
      · rw [fallback?, hneed]
        exact hne

end Argument

/-! ### The arguments of a registry -/

/-- The arguments that an operation hands over were made. -/
def Operation.Supplied : Operation → Prop
  | .register _ (some a) => a.Made
  | .rebuild _ call => ∀ m ∈ call.members, m.Made
  | _ => True

namespace Registry

/-- All arguments of the registry were made. -/
def Made (r : Registry) : Prop := ∀ a ∈ r.arguments, a.Made

theorem made_empty : Made {} := nofun

variable {r : Registry}

/-- The arguments of a command are arguments of the registry. -/
theorem Made.grammar (hr : r.Made) (c : Command) : ∀ a ∈ r.grammar c, a.Made := by
  intro a ha
  obtain ⟨id, -, hid⟩ := List.mem_filterMap.mp ha
  exact hr a (List.mem_of_getElem? hid)

/-- What an operation does to the arguments, from one registry to the next. -/
inductive Supply (r r' : Registry) : Operation → Prop where
  | idle (op : Operation) (h : r'.arguments = r.arguments) : Supply r r' op
  | register (id : CommandId) (a : Argument) (h : r'.arguments = r.arguments ++ [a]) :
      Supply r r' (.register id (some a))
  | rebuild {id : ArgumentId} {a : Argument} (call : Build) (ha : r.argument? id = some a)
      (h : r'.arguments = r.arguments.set id (a.build call).argument) :
      Supply r r' (.rebuild id call)

/-- A declaration leaves the arguments as they are. -/
theorem declare_arguments (r : Registry) (id : CommandId) (d : Declaration) :
    (r.declare id d).registry.arguments = r.arguments := by
  unfold declare
  split
  · rfl
  · split <;> rfl

theorem register_supply (r : Registry) (id : CommandId) (argument : Option Argument) :
    Supply r (r.register id argument).registry (.register id argument) := by
  unfold register
  dsimp only
  split
  · exact .register id _ rfl
  · exact .idle _ (r.declare_arguments id _)

/-- **All that an operation can do to the arguments.** -/
theorem apply_supply (r : Registry) (op : Operation) : Supply r (r.apply op).registry op := by
  cases op with
  | create name override =>
      refine .idle _ ?_
      cases name with
      | text name =>
          rw [apply, create]
          split <;> rfl
      | _ => rfl
  | make name =>
      refine .idle _ ?_
      cases name with
      | text name =>
          rw [apply, make]
          split <;> rfl
      | _ => rfl
  | remove id =>
      refine .idle _ ?_
      rw [apply, remove]
      split <;> rfl
  | destroy id =>
      refine .idle _ ?_
      rw [apply, destroy]
      split
      · rfl
      · split <;> rfl
  | declare id d => exact .idle _ (r.declare_arguments id d)
  | register id argument => exact r.register_supply id argument
  | rebuild id call =>
      rw [apply, rebuild]
      split
      · exact .idle _ rfl
      · rename_i a ha
        exact .rebuild call ha rfl

/-- **Whatever is done to a registry, its arguments were made**, if those that are handed over
were. -/
theorem made_apply (hr : r.Made) {op : Operation} (hop : op.Supplied) :
    (r.apply op).registry.Made := by
  have hsupply := r.apply_supply op
  intro b hb
  cases hsupply with
  | idle _ h => exact hr b (h ▸ hb)
  | register id a h =>
      rcases List.mem_append.mp (h ▸ hb) with hold | hnew
      · exact hr b hold
      · rw [List.mem_singleton.mp hnew]
        exact hop
  | rebuild call ha h =>
      rcases List.mem_or_eq_of_mem_set (h ▸ hb) with hold | rfl
      · exact hr b hold
      · exact .build (hr _ (List.mem_of_getElem? ha)) call hop

/-- **So after any operations.** -/
theorem made_applyAll (hr : r.Made) {ops : List Operation} (hops : ∀ op ∈ ops, op.Supplied) :
    (r.applyAll ops).Made := by
  induction ops generalizing r with
  | nil => exact hr
  | cons op ops ih =>
      exact ih (made_apply hr (hops op (.head _))) fun op' hop' => hops op' (.tail _ hop')

end Registry

end Switchboard
