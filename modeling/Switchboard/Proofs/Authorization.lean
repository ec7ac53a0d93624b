import Switchboard.Proofs.Pass
import Switchboard.Rehearsal

/-!
# Proofs — Authorization

Which handlers a pass calls, and with what.

* `Authorized`: all that has to come together for a handler to be called.
* `calls_turns_sublist`: turns call the handlers of their commands, one at most to each.
* `calls_dispatchWithin`: a pass calls the authorized handlers and no others, once each and in the
  order of the registry.
-/

namespace Switchboard.Setup

variable {σ : Type} {s : Setup σ}

/-- **What it takes for a handler to be called** in the pass over an event that starts in the world
`w`, and what it is then called with. -/
inductive Authorized (s : Setup σ) (depth : Nat) (event : Event) (w : World σ) :
    Summons → Prop where
  | intro {word : String} {text : List Char} {id : CommandId} {u v : World σ} {c c' : Command}
      {o : Outcome} {target : Target}
      (hself : event.isSelf = false)
      (hline : (s.split? event.text).result w = some (word, text))
      -- When the pass begins, the registry lists the command.
      (hc : w.registry.command? id = some c) (hlisted : c.isListed = true)
      (hanswers : c.answersTo word = true) (henabled : c.enabled = true)
      -- The predicate is asked in this pass, in the world `v`.
      (hpoll : (id, v) ∈ s.polls event word w)
      (hpermits : (s.permits c event.client).result v = .ok true)
      -- The turn of the command comes in the world `u`, where handlers may have changed it to `c'`.
      (hturn : (id, u) ∈ s.turns depth event word text w)
      (hready : s.Ready event text id u c' o target) :
      Authorized s depth event w
        ⟨id, c'.handler, { client := event.client, text := event.text, record := o.record }⟩

/-- The handlers that turns call belong to their commands, one at most to each. -/
theorem calls_turns_sublist (depth : Nat) (event : Event) (text : List Char)
    (turns : List (CommandId × World σ)) :
    ((turns.flatMap fun turn =>
      calls depth ((s.attend depth (s.below depth) event text turn.1).deeds turn.2)).map
        (·.command)).Sublist (turns.map (·.1)) := by
  induction turns with
  | nil => exact .slnil
  | cons turn turns ih =>
      obtain ⟨r, -, hsettles⟩ := attend_ends s depth event text turn.1 turn.2
      rw [List.flatMap_cons, List.map_append, List.map_cons]
      rcases hsettles.calls_eq with ⟨hnone, -⟩ | ⟨c, o, target, -, hone⟩
      · rw [hnone]
        exact ih.cons _
      · rw [hone]
        exact ih.cons_cons _

/-- A pass without candidates calls no handler. -/
theorem Passes.calls_eq_nil_or {depth : Nat} {event : Event} {w : World σ}
    {r : Except Failure (List Outcome)} {added : List Entry}
    (h : s.Passes depth event w r added) :
    calls depth added = [] ∨
      ∃ word text, s.heard event w = some (word, text) ∧ s.candidates event word w ≠ [] := by
  cases h with
  | ignored | silent | speechless => exact .inl rfl
  | turnedAway error => exact .inl (calls_notice depth event _ error)
  | settled hheard hsome => exact .inr ⟨_, _, hheard, hsome⟩

/-- With candidates, the handlers that a pass calls are those that their turns call. -/
theorem calls_of_candidates {event : Event} {word : String} {text : List Char} {w : World σ}
    (h : s.heard event w = some (word, text)) (hsome : s.candidates event word w ≠ [])
    (depth : Nat) :
    calls depth ((s.dispatchWithin depth event).deeds w) =
      (s.turns depth event word text w).flatMap fun turn =>
        calls depth ((s.attend depth (s.below depth) event text turn.1).deeds turn.2) := by
  rw [(dispatchWithin_of_candidates h hsome depth).2, calls_flatMap]

theorem authorized_of_mem_calls {depth : Nat} {event : Event} {w : World σ} {x : Summons}
    (hx : x ∈ calls depth ((s.dispatchWithin depth event).deeds w)) :
    s.Authorized depth event w x := by
  rcases (dispatchWithin_passes s depth event w).calls_eq_nil_or with
    hnone | ⟨word, text, hheard, hsome⟩
  · rw [hnone] at hx
    cases hx
  · rw [calls_of_candidates hheard hsome depth] at hx
    obtain ⟨⟨id, u⟩, hturn, hx⟩ := List.mem_flatMap.mp hx
    obtain ⟨hself, hline⟩ := heard_eq_some.mp hheard
    obtain ⟨c, hc, hlisted, hanswers, henabled, v, hpoll, hpermits⟩ :=
      mem_candidates.mp (mem_candidates_of_mem_turns hturn)
    obtain ⟨r, -, hsettles⟩ := attend_ends s depth event text id u
    rcases hsettles.calls_eq with ⟨hnone, -⟩ | ⟨c', o, target, hready, hone⟩
    · rw [hnone] at hx
      cases hx
    · rw [hone] at hx
      cases List.mem_singleton.mp hx
      exact .intro hself hline hc hlisted hanswers henabled hpoll hpermits hturn hready

theorem mem_calls_of_authorized {depth : Nat} {event : Event} {w : World σ} {x : Summons}
    (hx : s.Authorized depth event w x) :
    x ∈ calls depth ((s.dispatchWithin depth event).deeds w) := by
  obtain ⟨hself, hline, hc, hlisted, hanswers, henabled, hpoll, hpermits, hturn, hready⟩ := hx
  have hheard := heard_eq_some.mpr ⟨hself, hline⟩
  have hid := mem_candidates.mpr ⟨_, hc, hlisted, hanswers, henabled, _, hpoll, hpermits⟩
  rw [calls_of_candidates hheard (List.ne_nil_of_mem hid) depth]
  refine List.mem_flatMap.mpr ⟨_, hturn, ?_⟩
  obtain ⟨r, -, hsettles⟩ := attend_ends s depth event _ _ _
  rcases hsettles.calls_eq with ⟨-, hnot⟩ | ⟨c, o, target, hready', hone⟩
  · exact absurd hready (hnot _ _ _)
  -- The turn calls somebody ready, and there is one way to be ready.
  · obtain ⟨rfl, rfl, -⟩ := hready.unique hready'
    rw [hone]
    exact List.mem_singleton.mpr rfl

theorem calls_sublist (depth : Nat) (event : Event) (w : World σ) :
    ((calls depth ((s.dispatchWithin depth event).deeds w)).map (·.command)).Sublist
      w.registry.order := by
  rcases (dispatchWithin_passes s depth event w).calls_eq_nil_or with
    hnone | ⟨word, text, hheard, hsome⟩
  · rw [hnone]
    exact List.nil_sublist _
  · rw [calls_of_candidates hheard hsome depth]
    refine (calls_turns_sublist depth event text _).trans ?_
    rw [map_fst_turns]
    exact (candidates_sublist event word w).trans (w.registry.find_sublist word)

/-- **A pass calls the authorized handlers and no others**, each of them once and in the order of
the registry in which it began, with the record that was evaluated. -/
theorem calls_dispatchWithin (s : Setup σ) (depth : Nat) (event : Event) (w : World σ) :
    let called := calls depth ((s.dispatchWithin depth event).deeds w)
    (∀ x, x ∈ called ↔ s.Authorized depth event w x) ∧
      (called.map (·.command)).Sublist w.registry.order ∧ w.registry.order.Nodup :=
  ⟨fun _ => ⟨authorized_of_mem_calls, mem_calls_of_authorized⟩, calls_sublist depth event w,
    w.registry.order_nodup⟩

/-- A handler that destroys a command whose turn is still to come keeps it from being called. -/
example :
    let s : Setup Rehearsal.Cast := { host := Rehearsal.host fun _ => "" }
    let event : Event := { text := .text "!ale", client := { name := "ann" } }
    let w : World Rehearsal.Cast := {
      registry := { commands := [
        { name := "ale", standing := .listed, handler := .callback (.host 0) },
        { name := "beer", aliases := ["ale"], standing := .listed },
        { name := "cider", aliases := ["ale"], standing := .listed }] }
      memory := { scripts := [{ actions := [.operate (.destroy 1)] }] } }
    (calls nestingLimit ((s.dispatch event).deeds w)).map (·.command) = [0, 2] := rfl

end Switchboard.Setup
