import Mathlib.Data.List.Induction
import Switchboard.Diagnostics

/-!
# Proofs — Writers

Applying verbosities over time.  A call asks for the level first and changes nothing before it has
one; then it sets the level, and then it adds a console writer unless there is one.  So a call that
is refused leaves everything as it was, the level is the one of the last call that was accepted, and
a console writer is added at most once, behind the writers that were there.

* `Diagnostics.applying`, `Diagnostics.applying_eq`: a call, step by step.
* `Diagnostics.afterAll`: calls one after the other, accepted or refused.
* `Diagnostics.level_afterAll`, `Diagnostics.writers_afterAll`: what calls leave.
* `Diagnostics.applied_all`: what calls leave, and what each of them does.
-/

namespace Switchboard

/-- The verbosity that a level is taken from.  A value that is no verbosity is a wrong one. -/
def LevelSource.verbosity? : LevelSource → Option Verbosity
  | .config c => some c.verbosity
  | .value (.verbosity v) => some v
  | .value _ => none

variable {source : LevelSource} {v : Verbosity}

theorem LevelSource.level_of_some (h : source.verbosity? = some v) :
    source.level = .ok v.level := by
  unfold LevelSource.verbosity? at h
  split at h <;> cases h <;> rfl

theorem LevelSource.level_of_none (h : source.verbosity? = none) :
    source.level = .error .verbosity := by
  unfold LevelSource.verbosity? at h
  split at h
  · cases h
  · cases h
  · rename_i value hvalue
    cases value with
    | verbosity v => exact absurd rfl (hvalue v)
    | _ => rfl

namespace Diagnostics

variable {d : Diagnostics} {sources : List LevelSource}

/-! ### One call -/

/-- The diagnostics with a console writer: the one they have, or a new one behind the others. -/
def withConsole (d : Diagnostics) : Diagnostics :=
  if .console ∈ d.writers then d else { d with writers := d.writers ++ [.console] }

/-- Applying a verbosity, step by step.  A step that is refused leaves what the steps before it have
changed. -/
def applying (source : LevelSource) : EStateM Misuse Diagnostics Unit := do
  match source.level with
  | .error e => throw e
  | .ok level =>
    modify fun d => { d with level := level.number }
    modify withConsole

/-- **The steps of a call change what the call changes, and nothing if it is refused.** -/
theorem applying_eq (source : LevelSource) (d : Diagnostics) :
    applying source d =
      match d.configure source with
      | .ok d' => .ok () d'
      | .error e => .error e d := by
  unfold applying configure
  cases source.level with
  | error e => rfl
  | ok level =>
      show EStateM.Result.ok () (withConsole { d with level := level.number }) = .ok () _
      by_cases hconsole : LogWriter.console ∈ d.writers <;> simp [withConsole, hconsole]

theorem configure_of_none (h : source.verbosity? = none) (d : Diagnostics) :
    d.configure source = .error .verbosity := by
  rw [configure, LevelSource.level_of_none h]
  rfl

theorem configure_of_some (h : source.verbosity? = some v) (d : Diagnostics) :
    d.configure source = .ok (withConsole { d with level := v.level.number }) := by
  rw [configure, LevelSource.level_of_some h]
  by_cases hconsole : LogWriter.console ∈ d.writers <;> simp [Except.map, withConsole, hconsole]

theorem applying_of_none (h : source.verbosity? = none) (d : Diagnostics) :
    applying source d = .error .verbosity d := by
  rw [applying_eq, configure_of_none h]

theorem applying_of_some (h : source.verbosity? = some v) (d : Diagnostics) :
    applying source d = .ok () (withConsole { d with level := v.level.number }) := by
  rw [applying_eq, configure_of_some h]

/-! ### Calls over time -/

/-- The diagnostics after a call, accepted or refused. -/
def after (d : Diagnostics) (source : LevelSource) : Diagnostics :=
  match applying source d with
  | .ok _ d' => d'
  | .error _ d' => d'

/-- The diagnostics after calls one after the other, accepted or refused. -/
def afterAll (d : Diagnostics) (sources : List LevelSource) : Diagnostics :=
  sources.foldl after d

theorem afterAll_concat (d : Diagnostics) (sources : List LevelSource) (source : LevelSource) :
    d.afterAll (sources ++ [source]) = (d.afterAll sources).after source := by
  rw [afterAll, List.foldl_append]
  rfl

/-- The verbosities of the calls that are accepted. -/
def accepted (sources : List LevelSource) : List Verbosity :=
  sources.filterMap LevelSource.verbosity?

theorem accepted_eq_nil :
    accepted sources = [] ↔ ¬∃ source ∈ sources, source.verbosity?.isSome := by
  simp [accepted, List.filterMap_eq_nil_iff]

theorem after_of_none (h : source.verbosity? = none) : d.after source = d := by
  rw [after, applying_of_none h]

theorem after_of_some (h : source.verbosity? = some v) :
    d.after source = withConsole { d with level := v.level.number } := by
  rw [after, applying_of_some h]

theorem level_withConsole (d : Diagnostics) : d.withConsole.level = d.level := by
  unfold withConsole
  split <;> rfl

/-- The writers that are added to others if there is to be a console writer. -/
def addition (writers : List LogWriter) : List LogWriter :=
  if .console ∈ writers then [] else [.console]

theorem writers_withConsole (d : Diagnostics) :
    d.withConsole.writers = d.writers ++ addition d.writers := by
  unfold withConsole addition
  split <;> simp

/-- Once there is a console writer none is added. -/
theorem addition_append (writers : List LogWriter) : addition (writers ++ addition writers) = [] := by
  unfold addition
  split <;> simp [*]

/-- **The last call that is accepted decides the level.** -/
theorem level_afterAll (d : Diagnostics) (sources : List LevelSource) :
    (d.afterAll sources).level =
      ((accepted sources).getLast?.map fun v => v.level.number).getD d.level := by
  induction sources using List.reverseRecOn with
  | nil => rfl
  | append_singleton sources source ih =>
      rw [afterAll_concat, accepted, List.filterMap_append]
      cases h : source.verbosity? with
      | none => simpa [after_of_none h, h, accepted] using ih
      | some v => simp [after_of_some h, h, level_withConsole]

/-- **The writers stay, and the first call that is accepted adds what is missing.** -/
theorem writers_afterAll (d : Diagnostics) (sources : List LevelSource) :
    (d.afterAll sources).writers =
      d.writers ++ if accepted sources = [] then [] else addition d.writers := by
  induction sources using List.reverseRecOn with
  | nil => simp [afterAll, accepted]
  | append_singleton sources source ih =>
      rw [afterAll_concat, accepted, List.filterMap_append]
      cases h : source.verbosity? with
      | none => simpa [after_of_none h, h, accepted] using ih
      | some v =>
          rw [after_of_some h, writers_withConsole]
          show (d.afterAll sources).writers ++ addition (d.afterAll sources).writers = _
          rw [ih]
          split <;> simp [h, addition_append]

/-- **Applying verbosities over time**, from any level and any writers.  Each call whose value is
wrong is refused and leaves level and writers as they are, and each other call is accepted.  After
all calls the level is the one of the last call that was accepted, or the level before if none was.
All writers are still there in order, and exactly one console writer is added behind them if a call
was accepted and there was none; otherwise none is added. -/
theorem applied_all (d : Diagnostics) (sources : List LevelSource) :
    (∀ before source later, sources = before ++ source :: later →
      let now := d.afterAll before
      match source.verbosity? with
      | none => now.configure source = .error .verbosity ∧ applying source now = .error .verbosity now
      | some v => ∃ next, now.configure source = .ok next ∧ applying source now = .ok () next ∧
          next.level = v.level.number) ∧
    (d.afterAll sources).level =
      ((accepted sources).getLast?.map fun v => v.level.number).getD d.level ∧
    (d.afterAll sources).writers = d.writers ++
      if (∃ source ∈ sources, source.verbosity?.isSome) ∧ .console ∉ d.writers then [.console]
      else [] := by
  refine ⟨?_, level_afterAll d sources, ?_⟩
  · intro before source later _ now
    cases h : source.verbosity? with
    | none => exact ⟨configure_of_none h now, applying_of_none h now⟩
    | some v => exact ⟨_, configure_of_some h now, applying_of_some h now, level_withConsole _⟩
  · rw [writers_afterAll, addition, if_congr accepted_eq_nil rfl rfl, ite_not]
    by_cases hsome : ∃ source ∈ sources, source.verbosity?.isSome
    · rw [if_pos hsome, ← ite_not, if_congr (and_iff_right hsome) rfl rfl]
    · rw [if_neg hsome, if_neg fun h => hsome h.1]

/-- A name in the place of a verbosity is refused.  The two calls that are accepted add one writer,
and the index that is refused at the end does not bring the first level back. -/
theorem applied_all_rehearsed :
    let d : Diagnostics := { level := 30, writers := [.other "StreamHandler"] }
    let calls : List LevelSource :=
      [.value (.text "INFO"), .value (.verbosity .verbose), .config {}, .value (.int 1)]
    applying (.value (.text "INFO")) d = .error .verbosity d ∧
      (d.afterAll calls).level = 20 ∧
      (d.afterAll calls).writers = [.other "StreamHandler", .console] := by
  intro d calls
  obtain ⟨hcalls, hlevel, hwriters⟩ := applied_all d calls
  exact ⟨(hcalls [] _ _ rfl).2, hlevel, hwriters⟩

end Diagnostics

end Switchboard
