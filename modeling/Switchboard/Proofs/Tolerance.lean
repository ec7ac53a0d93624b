import Switchboard.Proofs.Agreement
import Switchboard.Proofs.History
import Switchboard.Proofs.Ruling

/-!
# Proofs — Tolerance

What it changes that a command tolerates text beyond its arguments.  The walk over the grammar does
not know of it; it is asked for once the walk has gone through, if text is left over and nothing was
left out.  So the one verdict that a tolerant command does not reach is that there is too much text.

* `World.tolerating`: a world in which a command is tolerant, or strict.
* `Registry.declare_ignoreExtraArgs`: a declaration makes a command tolerant, and nothing else.
* `Walk.verdict_tolerating`: the verdicts of a strict and of a tolerant command on one walk.
* `evaluate_tolerating`: the outcomes of a strict and of a tolerant command on one text.
-/

namespace Switchboard

variable {σ : Type}

/-- The world in which a command tolerates text beyond its arguments, or does not. -/
def World.tolerating (u : World σ) (id : CommandId) (tolerant : Bool) : World σ :=
  { u with registry := u.registry.update id fun c => { c with tolerant } }

theorem World.command?_tolerating {u : World σ} {id : CommandId} {c : Command}
    (hc : u.registry.command? id = some c) (tolerant : Bool) :
    (u.tolerating id tolerant).registry.command? id = some { c with tolerant } := by
  have hset := Registry.command?_of_set hc
    (Registry.update_commands hc fun c => { c with tolerant }) id
  rw [if_pos rfl] at hset
  exact hset

/-- **A declaration makes a command tolerant, and nothing else.** -/
theorem Registry.declare_ignoreExtraArgs {u : World σ} {id : CommandId} {c : Command}
    (hc : u.registry.command? id = some c) (halive : c.isDestroyed = false) :
    (u.registry.apply (.declare id .ignoreExtraArgs)).registry =
      (u.tolerating id true).registry := by
  have hdeclare : c.declare .ignoreExtraArgs = .ok { c with tolerant := true } := by
    simp [Command.declare, halive]
  have hcommands : (u.registry.update id fun _ => { c with tolerant := true }).commands =
      (u.registry.update id fun c => { c with tolerant := true }).commands := by
    rw [update_commands hc, update_commands hc]
  simp only [apply, declare, hc, hdeclare, World.tolerating]
  exact congrArg (fun commands => { u.registry with commands }) hcommands

/-- **The verdicts of a strict and of a tolerant command on a walk** are the same, except that there is
nothing in the way of the tolerant one where there is too much text for the strict one. -/
theorem Walk.verdict_tolerating (w : Walk) :
    w.verdict false = .surplus ∧ w.verdict true = .ready ∨
      w.verdict false ≠ .surplus ∧ w.verdict true = w.verdict false := by
  unfold Walk.verdict
  cases w.hard with
  | some found => simp
  | none => cases w.left <;> cases w.soft <;> simp

namespace Setup

/-- **A tolerant command is evaluated as a strict one**, unless there is too much text for the strict
one.  Let the arguments of a command be concrete, and the formatter never raise.  Both evaluations
give an outcome, with the same record.  If the fault of the strict one is that there is too much
text, the tolerant one has none; otherwise the outcomes are equal as a whole. -/
theorem evaluate_tolerating (s : Setup σ) (h : s.Fluent) {id : CommandId} {c : Command}
    {u : World σ} (hc : u.registry.command? id = some c)
    (hgrammar : ∀ a ∈ u.registry.grammar c, a.Concrete) (text : List Char) :
    ∃ strict tolerant,
      (s.evaluate id text).result (u.tolerating id false) = .ok strict ∧
      (s.evaluate id text).result (u.tolerating id true) = .ok tolerant ∧
      tolerant.record = strict.record ∧
      ((∃ f, strict.fault = some f ∧ f.kind = .tooManyArguments) → tolerant.fault = none) ∧
      (¬ (∃ f, strict.fault = some f ∧ f.kind = .tooManyArguments) → tolerant = strict) := by
  have hstrict := World.command?_tolerating hc false
  have htolerant := World.command?_tolerating hc true
  obtain ⟨verdict, hruling⟩ := exists_ruling hgrammar false text
  obtain ⟨w, hwalk, -⟩ := hruling.along
  obtain ⟨o, ho, -, hrecord, htells⟩ := evaluate_of_along h hstrict hwalk
  obtain ⟨o', ho', -, hrecord', htells'⟩ := evaluate_of_along h htolerant hwalk
  refine ⟨o, o', ho, ho', hrecord'.trans hrecord.symm, fun hsurplus => ?_, fun hsurplus => ?_⟩
  · rw [htells.surplus_iff] at hsurplus
    rw [htells'.eq_none_iff]
    rcases w.verdict_tolerating with ⟨-, hready⟩ | ⟨hne, -⟩
    · exact hready
    · exact absurd hsurplus hne
  · rw [htells.surplus_iff] at hsurplus
    rcases w.verdict_tolerating with ⟨heq, -⟩ | ⟨-, hsame⟩
    · exact absurd heq hsurplus
    · have hakin : Akin (u.tolerating id true) (u.tolerating id false) := ⟨rfl, rfl⟩
      have hresult := s.evaluate_akin hakin htolerant hstrict hwalk hwalk rfl hsame
      rw [ho, ho'] at hresult
      exact Except.ok.inj hresult

/-- A word, and a number that may be left out: a line of two numbers too many has no fault for the
command once it is declared tolerant, and a line of a word in the place of the number has the same
fault for both. -/
theorem evaluate_tolerating_rehearsed :
    let s : Setup Rehearsal.Cast := { host := Rehearsal.host fun _ => "" }
    let word : Argument := .string { name := "word" } {}
    let count : Argument := .number { name := "n", need := .optional none } {}
    let u : World Rehearsal.Cast := {
      registry := .applyAll {} [.create (.text "ale") .unset, .register 0 (some word),
        .register 0 (some count)]
      memory := {} }
    let v : World Rehearsal.Cast :=
      { u with registry := (u.registry.apply (.declare 0 .ignoreExtraArgs)).registry }
    let spare := "bob 5 6".toList
    let wrong := "bob ale".toList
    s.Fluent ∧ (∀ a ∈ [word, count], a.Concrete) ∧
      (∃ o f, (s.evaluate 0 spare).result (u.tolerating 0 false) = .ok o ∧ o.fault = some f ∧
        f.kind = .tooManyArguments ∧
        ∃ o', (s.evaluate 0 spare).result v = .ok o' ∧ o'.fault = none) ∧
      ∃ o f, (s.evaluate 0 wrong).result (u.tolerating 0 false) = .ok o ∧ o.fault = some f ∧
        f.kind = .optionalArgument ∧ (s.evaluate 0 wrong).result v = .ok o := by
  intro s word count u v spare wrong
  have hfluent : s.Fluent := fun _ => .pure _
  have hconcrete : ∀ a ∈ [word, count], a.Concrete := by
    simp only [List.forall_mem_cons, List.not_mem_nil, false_implies, implies_true, and_true]
    exact ⟨.string _ rfl, .number _ _⟩
  have hc : u.registry.command? 0 =
      some { name := "ale", grammar := [0, 1], standing := .listed } := rfl
  have hstrict := World.command?_tolerating hc false
  have hdeclared : v = u.tolerating 0 true :=
    congrArg (fun registry => { u with registry }) (Registry.declare_ignoreExtraArgs hc rfl)
  rw [hdeclared]
  refine ⟨hfluent, hconcrete, ?_, ?_⟩
  · have hwalk : Walk.along [word, count] spare =
        .ok { record := [("word", .text "bob"), ("n", .int 5)], left := ['6'] } := rfl
    obtain ⟨o, ho, -, -, htells⟩ := evaluate_of_along hfluent hstrict hwalk
    obtain ⟨f, hf, hkind⟩ := htells.surplus_iff.mpr rfl
    obtain ⟨o₁, o', ho₁, ho', -, hnone, -⟩ := evaluate_tolerating s hfluent hc hconcrete spare
    cases ho.symm.trans ho₁
    exact ⟨o, f, ho, hf, hkind, o', ho', hnone ⟨f, hf, hkind⟩⟩
  · have hwalk : Walk.along [word, count] wrong = .ok {
        record := [("word", .text "bob"), ("n", .null)]
        soft := [(count, ⟨count, .notNumber "ale"⟩)]
        left := "ale".toList } := rfl
    obtain ⟨o, ho, -, -, htells⟩ := evaluate_of_along hfluent hstrict hwalk
    obtain ⟨o₁, o', ho₁, ho', -, -, hsame⟩ := evaluate_tolerating s hfluent hc hconcrete wrong
    cases ho.symm.trans ho₁
    have htells : s.Tells 0 (.optional count ⟨count, .notNumber "ale"⟩) o.fault := htells
    generalize hfault : o.fault = fault at htells
    cases htells with
    | @optional _ _ f _ _ hkind =>
        have hne : ¬ ∃ f, o.fault = some f ∧ f.kind = .tooManyArguments := by
          simp [hfault, hkind]
        exact ⟨o, f, ho, hfault, hkind, by rw [ho', hsame hne]⟩

end Setup

end Switchboard
