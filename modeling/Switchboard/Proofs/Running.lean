import Mathlib.Order.Defs.Unbundled
import Switchboard.World

/-!
# Proofs — Running

What a step or a run gives in a world (`result`), and the world that it leaves (`after`).  A run
that fails leaves a world like any other, so `after` asks for no success.

* `Step.result_bind`, `Step.after_bind`: a step after a step goes on in the world that was left.
* `Run.result_bind`, `Run.after_bind`: a run after a run does so only if the first one succeeds.
* `Run.Returns`: the run gives a value, wherever it starts.
* `visits`: where a family of steps, taken one after the other, starts each of them.
* `Step.Within R`: the step moves along the relation `R`, wherever it starts.  If `R` is reflexive
  and transitive, steps within `R` are closed under everything that a step is made of.
-/

namespace Switchboard

variable {σ α β ι : Type}

/-! ### Steps -/

namespace Step

/-- What a step gives in a world. -/
def result (x : Step σ α) (w : World σ) : α := (Id.run (StateT.run x w)).1

/-- The world that a step leaves. -/
def after (x : Step σ α) (w : World σ) : World σ := (Id.run (StateT.run x w)).2

@[simp] theorem result_pure (a : α) (w : World σ) : result (pure a : Step σ α) w = a := rfl

@[simp] theorem after_pure (a : α) (w : World σ) : after (pure a : Step σ α) w = w := rfl

@[simp] theorem result_bind (x : Step σ α) (f : α → Step σ β) (w : World σ) :
    result (x >>= f) w = result (f (x.result w)) (x.after w) := rfl

@[simp] theorem after_bind (x : Step σ α) (f : α → Step σ β) (w : World σ) :
    after (x >>= f) w = after (f (x.result w)) (x.after w) := rfl

@[simp] theorem result_get (w : World σ) : result (get : Step σ (World σ)) w = w := rfl

@[simp] theorem after_get (w : World σ) : after (get : Step σ (World σ)) w = w := rfl

@[simp] theorem after_note (entry : Entry) (w : World σ) :
    after (note entry) w = { w with trace := w.trace ++ [entry] } := rfl

@[simp] theorem after_log (event : LogEvent) (failure : Option Failure) (w : World σ) :
    after (log event failure) w =
      { w with trace := w.trace ++ [.log { event, failure }] } := rfl

end Step

/-! ### Runs -/

namespace Run

/-- What a run gives in a world: a value or a failure. -/
def result (x : Run σ α) (w : World σ) : Except Failure α := Step.result (ExceptT.run x) w

/-- The world that a run leaves, whether it fails or not. -/
def after (x : Run σ α) (w : World σ) : World σ := Step.after (ExceptT.run x) w

@[simp] theorem step_result_run (x : Run σ α) (w : World σ) :
    Step.result (ExceptT.run x) w = x.result w := rfl

@[simp] theorem step_after_run (x : Run σ α) (w : World σ) :
    Step.after (ExceptT.run x) w = x.after w := rfl

@[simp] theorem result_pure (a : α) (w : World σ) : result (pure a : Run σ α) w = .ok a := rfl

@[simp] theorem after_pure (a : α) (w : World σ) : after (pure a : Run σ α) w = w := rfl

@[simp] theorem result_throw (e : Failure) (w : World σ) :
    result (throw e : Run σ α) w = .error e := rfl

@[simp] theorem after_throw (e : Failure) (w : World σ) :
    after (throw e : Run σ α) w = w := rfl

@[simp] theorem result_get (w : World σ) : result (get : Run σ (World σ)) w = .ok w := rfl

@[simp] theorem after_get (w : World σ) : after (get : Run σ (World σ)) w = w := rfl

@[simp] theorem result_lift (x : Step σ α) (w : World σ) :
    result (liftM x : Run σ α) w = .ok (x.result w) := rfl

@[simp] theorem after_lift (x : Step σ α) (w : World σ) :
    after (liftM x : Run σ α) w = x.after w := rfl

theorem result_bind (x : Run σ α) (f : α → Run σ β) (w : World σ) :
    result (x >>= f) w =
      match x.result w with
      | .ok a => result (f a) (x.after w)
      | .error e => .error e := by
  show Step.result (x.run >>= ExceptT.bindCont f) w = _
  rw [Step.result_bind, step_result_run]
  cases x.result w <;> rfl

theorem after_bind (x : Run σ α) (f : α → Run σ β) (w : World σ) :
    after (x >>= f) w =
      match x.result w with
      | .ok a => after (f a) (x.after w)
      | .error _ => x.after w := by
  show Step.after (x.run >>= ExceptT.bindCont f) w = _
  rw [Step.after_bind, step_result_run]
  cases x.result w <;> rfl

theorem result_bind_ok {x : Run σ α} {w : World σ} {a : α} (h : x.result w = .ok a)
    (f : α → Run σ β) : result (x >>= f) w = result (f a) (x.after w) := by
  rw [result_bind, h]

theorem result_bind_error {x : Run σ α} {w : World σ} {e : Failure} (h : x.result w = .error e)
    (f : α → Run σ β) : result (x >>= f) w = .error e := by
  rw [result_bind, h]

theorem after_bind_ok {x : Run σ α} {w : World σ} {a : α} (h : x.result w = .ok a)
    (f : α → Run σ β) : after (x >>= f) w = after (f a) (x.after w) := by
  rw [after_bind, h]

theorem after_bind_error {x : Run σ α} {w : World σ} {e : Failure} (h : x.result w = .error e)
    (f : α → Run σ β) : after (x >>= f) w = x.after w := by
  rw [after_bind, h]

/-- A run after a run succeeds if both do. -/
theorem result_bind_eq_ok {x : Run σ α} {f : α → Run σ β} {w : World σ} {b : β} :
    result (x >>= f) w = .ok b ↔ ∃ a, x.result w = .ok a ∧ result (f a) (x.after w) = .ok b := by
  cases h : x.result w with
  | ok a => simp [result_bind_ok h]
  | error e => simp [result_bind_error h]

/-- A run after a run fails if the first one does, or the second one after it. -/
theorem result_bind_eq_error {x : Run σ α} {f : α → Run σ β} {w : World σ} {e : Failure} :
    result (x >>= f) w = .error e ↔
      x.result w = .error e ∨ ∃ a, x.result w = .ok a ∧ result (f a) (x.after w) = .error e := by
  cases h : x.result w with
  | ok a => simp [result_bind_ok h]
  | error e => simp [result_bind_error h]

/-- A run whose value is merely made into another one fails if it does. -/
@[simp] theorem result_map_eq_error {x : Run σ α} {f : α → β} {w : World σ} {e : Failure} :
    result (f <$> x) w = .error e ↔ x.result w = .error e := by
  rw [← bind_pure_comp, result_bind_eq_error]
  simp

theorem result_operate (operation : Operation) (w : World σ) :
    (operate operation).result w = (w.registry.apply operation).result := by
  show result (operate.liftExcept _) _ = _
  cases (w.registry.apply operation).result <;> rfl

/-- An operation changes the registry, and logs what there is to log. -/
theorem after_operate (operation : Operation) (w : World σ) :
    (operate operation).after w =
      { w with
        registry := (w.registry.apply operation).registry
        trace := w.trace ++ (w.registry.apply operation).logs.map Entry.log } := by
  show after (operate.liftExcept _) _ = _
  cases (w.registry.apply operation).result <;> rfl

end Run

/-! ### Runs that return -/

/-- The run gives a value, wherever it starts. -/
def Run.Returns (x : Run σ α) : Prop := ∀ w, ∃ a, x.result w = .ok a

namespace Run.Returns

theorem pure (a : α) : (Pure.pure a : Run σ α).Returns := fun _ => ⟨a, rfl⟩

theorem lift (x : Step σ α) : (liftM x : Run σ α).Returns := fun w => ⟨x.result w, rfl⟩

theorem bind {x : Run σ α} {f : α → Run σ β} (hx : x.Returns) (hf : ∀ a, (f a).Returns) :
    (x >>= f).Returns := by
  intro w
  obtain ⟨a, ha⟩ := hx w
  rw [result_bind_ok ha]
  exact hf a _

end Run.Returns

/-! ### Steps one after the other -/

/-- Where each step of a family starts, when they are taken one after the other. -/
def visits (f : ι → Step σ α) : List ι → World σ → List (ι × World σ)
  | [], _ => []
  | i :: is, w => (i, w) :: visits f is ((f i).after w)

/-- Every member of the family has its turn, in order, and once for each time it is listed. -/
@[simp] theorem map_fst_visits (f : ι → Step σ α) (is : List ι) (w : World σ) :
    (visits f is w).map (·.1) = is := by
  induction is generalizing w with
  | nil => rfl
  | cons i is ih => simp [visits, ih]

@[simp] theorem length_visits (f : ι → Step σ α) (is : List ι) (w : World σ) :
    (visits f is w).length = is.length := by
  rw [← List.length_map (f := (·.1)), map_fst_visits]

/-! ### Steps within a relation -/

/-- The step moves along `R`, wherever it starts. -/
def Step.Within (R : World σ → World σ → Prop) (x : Step σ α) : Prop := ∀ w, R w (x.after w)

/-- The run moves along `R`, wherever it starts and whether it fails or not. -/
def Run.Within (R : World σ → World σ → Prop) (x : Run σ α) : Prop := ∀ w, R w (x.after w)

section Within

variable {R R' : World σ → World σ → Prop}

theorem Step.Within.mono {x : Step σ α} (h : x.Within R) (hR : ∀ u v, R u v → R' u v) :
    x.Within R' :=
  fun w => hR _ _ (h w)

theorem Run.Within.mono {x : Run σ α} (h : x.Within R) (hR : ∀ u v, R u v → R' u v) :
    x.Within R' :=
  fun w => hR _ _ (h w)

theorem Step.Within.lift {x : Step σ α} (h : x.Within R) : (liftM x : Run σ α).Within R := h

theorem Run.Within.run {x : Run σ α} (h : x.Within R) : Step.Within R (ExceptT.run x) := h

/-- A step that goes on with the world that it looks at. -/
theorem Step.Within.get_bind {f : World σ → Step σ α} (h : ∀ w, R w ((f w).after w)) :
    (get >>= f).Within R := h

theorem Run.Within.get_bind {f : World σ → Run σ α} (h : ∀ w, R w ((f w).after w)) :
    (get >>= f).Within R := h

variable [IsPreorder (World σ) R]

theorem Step.get_within : (get : Step σ (World σ)).Within R := fun w => refl w

theorem Run.get_within : (get : Run σ (World σ)).Within R := fun w => refl w

theorem Step.Within.pure (a : α) : (Pure.pure a : Step σ α).Within R := fun w => refl w

theorem Run.Within.pure (a : α) : (Pure.pure a : Run σ α).Within R := fun w => refl w

theorem Run.Within.throw (e : Failure) : (MonadExcept.throw e : Run σ α).Within R :=
  fun w => refl w

/-- What follows a step goes on from where the step has led. -/
theorem Step.after_bind_of {x : Step σ α} {f : α → Step σ β} {w : World σ} (hx : R w (x.after w))
    (hf : ∀ a, (f a).Within R) : R w ((x >>= f).after w) :=
  IsTrans.trans _ _ _ hx (hf _ _)

theorem Step.Within.bind {x : Step σ α} {f : α → Step σ β} (hx : x.Within R)
    (hf : ∀ a, (f a).Within R) : (x >>= f).Within R :=
  fun w => Step.after_bind_of (hx w) hf

theorem Run.Within.bind {x : Run σ α} {f : α → Run σ β} (hx : x.Within R)
    (hf : ∀ a, (f a).Within R) : (x >>= f).Within R := by
  intro w
  cases h : x.result w with
  | error e => rw [Run.after_bind_error h]; exact hx w
  | ok a => rw [Run.after_bind_ok h]; exact IsTrans.trans _ _ _ (hx w) (hf a _)

/-- Steps within `R`, taken one after the other, start in worlds that `R` leads to. -/
theorem visits_within {f : ι → Step σ α} (hf : ∀ i, (f i).Within R) {is : List ι}
    {w : World σ} {i : ι} {u : World σ} (h : (i, u) ∈ visits f is w) : R w u := by
  induction is generalizing w with
  | nil => cases h
  | cons j is ih =>
      rcases List.mem_cons.mp h with h | h
      · cases h
        exact refl _
      · exact IsTrans.trans _ _ _ (hf j w) (ih h)

end Within

end Switchboard
