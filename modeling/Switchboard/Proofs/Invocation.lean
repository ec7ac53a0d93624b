import Switchboard.Proofs.Isolation
import Switchboard.Rehearsal

/-!
# Proofs — Invocation

What an outcome says about the call of a handler, against the calls that were made.

* `Called`, `Stranded`: a turn that calls the handler of its command, and a turn that gets as far
  as the handler, from which replies would have nowhere to go.
* `Settles.invoked`: the outcome of a turn says that the handler was called if it was, and also if
  the turn is stranded, although then nothing is called.
* `invoked_dispatchWithin`: so it is for every outcome of a pass.
-/

namespace Switchboard.Setup

variable {σ : Type} {s : Setup σ}

/-! ### Where replies go -/

/-- Replies have nowhere to go exactly if the line came from a channel and its client is in none. -/
theorem target_eq_error {event : Event} {e : Failure} :
    s.target event = .error e ↔
      event.mode.mode? = some .channel ∧ event.client.channels = 0 ∧ e = .noChannel := by
  unfold target
  rcases event.mode.mode? with _ | (_ | _ | _)
  · simp
  · simp
  · by_cases h : event.client.channels = 0
    · simp [h, eq_comm]
    · simp [h]
  · cases s.backend <;> simp

/-! ### Turns -/

section

variable (s) (depth : Nat) (event : Event) (text : List Char) (id : CommandId) (u : World σ)

/-- The calls that the turn of a command makes. -/
def summons : List Summons :=
  calls depth ((s.attend depth (s.below depth) event text id).deeds u)

/-- The handler of a command is called in the turn that comes in the world `u`. -/
def Called : Prop := ∃ x ∈ s.summons depth event text id u, x.command = id

/-- The turn of a command gets as far as its handler, but the line came from a channel and its
client is in none. -/
structure Stranded : Prop where
  evaluates : ∃ o, (s.evaluate id text).result u = .ok o ∧ o.fault = none
  alive : ∃ c, u.registry.command? id = some c ∧ c.isDestroyed = false
  channel : event.mode.mode? = some .channel
  channelless : event.client.channels = 0

end

variable {depth : Nat} {event : Event} {text : List Char} {id : CommandId} {u : World σ}
  {r : Except Failure Outcome} {added : List Entry}

/-- A turn that is ready is not stranded. -/
theorem Ready.not_stranded {c : Command} {o : Outcome} {target : Target}
    (h : s.Ready event text id u c o target) : ¬ s.Stranded event text id u := by
  intro hs
  have hnone := (target_eq_error (s := s)).mpr ⟨hs.channel, hs.channelless, rfl⟩
  cases hnone.symm.trans h.reachable

theorem not_stranded_of_error {e : Failure} (heval : (s.evaluate id text).result u = .error e) :
    ¬ s.Stranded event text id u := by
  rintro ⟨⟨o, ho, -⟩, -, -, -⟩
  cases heval.symm.trans ho

theorem not_stranded_of_fault {o : Outcome} {f : Fault}
    (heval : (s.evaluate id text).result u = .ok o) (hf : o.fault = some f) :
    ¬ s.Stranded event text id u := by
  rintro ⟨⟨o', ho', hf'⟩, -, -, -⟩
  cases heval.symm.trans ho'
  cases hf.symm.trans hf'

theorem not_stranded_of_gone {c : Command} (hc : u.registry.command? id = some c)
    (hd : c.isDestroyed = true) : ¬ s.Stranded event text id u := by
  rintro ⟨-, ⟨c', hc', hd'⟩, -, -⟩
  cases hc.symm.trans hc'
  cases hd.symm.trans hd'

/-- **What the outcome of a turn says about the call.**  The handler was called and the outcome says
so; or it was not called and the outcome says so; or the turn is stranded, and the outcome says that
the handler was called and failed, although nothing was called. -/
theorem Settles.invoked (h : s.Settles depth event text id u r added) :
    ((Outcome.ofSettled id r).invoked = true ∧ (∃ x, calls depth added = [x] ∧ x.command = id) ∧
        ¬ s.Stranded event text id u) ∨
      ((Outcome.ofSettled id r).invoked = false ∧ calls depth added = [] ∧
        ¬ s.Stranded event text id u) ∨
      ((Outcome.ofSettled id r).invoked = true ∧
        (Outcome.ofSettled id r).fault = some (handlerFault id) ∧ calls depth added = [] ∧
        s.Stranded event text id u) := by
  have hcalls := h.calls_eq
  cases h with
  | stalled heval => exact .inr (.inl ⟨rfl, rfl, not_stranded_of_error heval⟩)
  | refused error heval hf =>
      obtain ⟨-, hinvoked, -⟩ := s.evaluate_ok heval
      exact .inr (.inl ⟨hinvoked, rfl, not_stranded_of_fault heval hf⟩)
  | unworded heval hf hc hd => exact .inr (.inl ⟨rfl, rfl, not_stranded_of_gone hc hd⟩)
  | gone error heval hf hc hd =>
      obtain ⟨-, hinvoked, -⟩ := s.evaluate_ok heval
      exact .inr (.inl ⟨hinvoked, rfl, not_stranded_of_gone hc hd⟩)
  | unreachable error heval hf hc hd ht =>
      obtain ⟨hchannel, hnone, -⟩ := target_eq_error.mp ht
      exact .inr (.inr ⟨rfl, rfl, rfl, ⟨_, heval, hf⟩, ⟨_, hc, hd⟩, hchannel, hnone⟩)
  | crashed error hready | completed hready =>
      rcases hcalls with ⟨-, hnot⟩ | ⟨c, o, target, -, hone⟩
      · exact absurd hready (hnot _ _ _)
      · exact .inl ⟨rfl, ⟨_, hone, rfl⟩, hready.not_stranded⟩

/-- **An outcome says that the handler was called exactly if it was.** -/
def TellsCall (s : Setup σ) (depth : Nat) (event : Event) (text : List Char) (id : CommandId)
    (u : World σ) : Prop :=
  let o := (s.attend depth (s.below depth) event text id).result u
  o.invoked = true ↔ o.command = some id ∧ s.Called depth event text id u

/-- A turn keeps to the law exactly if it is not stranded; one that is stranded calls nothing, and
its outcome says that the handler was called and failed. -/
theorem tellsCall_iff :
    (s.TellsCall depth event text id u ↔ ¬ s.Stranded event text id u) ∧
      (s.Stranded event text id u →
        let o := (s.attend depth (s.below depth) event text id).result u
        o.invoked = true ∧ o.fault = some (handlerFault id) ∧
          s.summons depth event text id u = []) := by
  obtain ⟨r, hr, hsettles⟩ := attend_ends s depth event text id u
  have hcommand := hsettles.shape.1
  have huncalled : s.summons depth event text id u = [] → ¬ s.Called depth event text id u := by
    rintro hnil ⟨x, hx, -⟩
    rw [hnil] at hx
    cases hx
  rw [TellsCall, hr]
  rcases hsettles.invoked with ⟨hinvoked, ⟨x, hone, hx⟩, hnot⟩ | ⟨hinvoked, hnil, hnot⟩ |
    ⟨hinvoked, hfault, hnil, hstranded⟩
  · have hcalled : s.Called depth event text id u :=
      ⟨x, by rw [summons, hone]; exact List.mem_singleton.mpr rfl, hx⟩
    exact ⟨iff_of_true (iff_of_true hinvoked ⟨hcommand, hcalled⟩) hnot, fun h => absurd h hnot⟩
  · have hsilent : (Outcome.ofSettled id r).invoked ≠ true := by simp [hinvoked]
    exact ⟨iff_of_true (iff_of_false hsilent fun h => huncalled hnil h.2) hnot,
      fun h => absurd h hnot⟩
  · refine ⟨iff_of_false ?_ fun h => h hstranded, fun _ => ⟨hinvoked, hfault, hnil⟩⟩
    exact fun hlaw => huncalled hnil (hlaw.mp hinvoked).2

/-! ### Passes -/

/-- **What the outcomes of a pass say about calls.**  Without candidates nothing is called, and no
outcome has a command or says that a handler was called.  With candidates the outcomes are those of
their turns, and the calls are those that the turns make; each outcome says that its handler was
called exactly if it was, unless the turn is stranded: then it says so, and nothing was called. -/
theorem invoked_dispatchWithin (s : Setup σ) (depth : Nat) (event : Event) (w : World σ)
    {outcomes : List Outcome} (h : (s.dispatchWithin depth event).result w = .ok outcomes) :
    let called := calls depth ((s.dispatchWithin depth event).deeds w)
    (called = [] ∧ ∀ o ∈ outcomes, o.command = none ∧ o.invoked = false) ∨
      ∃ word text, s.heard event w = some (word, text) ∧
        outcomes = (s.turns depth event word text w).map (fun turn =>
          (s.attend depth (s.below depth) event text turn.1).result turn.2) ∧
        called = (s.turns depth event word text w).flatMap (fun turn =>
          s.summons depth event text turn.1 turn.2) ∧
        ∀ turn ∈ s.turns depth event word text w,
          (s.TellsCall depth event text turn.1 turn.2 ↔ ¬ s.Stranded event text turn.1 turn.2) ∧
          (s.Stranded event text turn.1 turn.2 →
            ((s.attend depth (s.below depth) event text turn.1).result turn.2).invoked = true ∧
              s.summons depth event text turn.1 turn.2 = []) := by
  have hpasses := dispatchWithin_passes s depth event w
  rw [h] at hpasses
  intro called
  generalize hdeeds : (s.dispatchWithin depth event).deeds w = added at hpasses
  have hcalled : called = calls depth added := congrArg _ hdeeds
  rw [hcalled]
  cases hpasses with
  | ignored | silent => exact .inl ⟨rfl, by simp⟩
  | turnedAway error => exact .inl ⟨calls_notice depth event _ error, by simp⟩
  | settled hheard hsome =>
      refine .inr ⟨_, _, hheard, rfl, calls_flatMap _ _ _, fun turn _ => ?_⟩
      refine ⟨tellsCall_iff.1, fun hstranded => ?_⟩
      obtain ⟨hinvoked, -, hnil⟩ := tellsCall_iff.2 hstranded
      exact ⟨hinvoked, hnil⟩

/-- A line from a channel to a command whose handler takes no notice of it: the outcome says that
the handler was called, and it was. -/
theorem invoked_dispatchWithin_rehearsed :
    let s : Setup Rehearsal.Cast := { host := Rehearsal.host fun _ => "" }
    let event : Event := {
      text := .text "!ale", client := { name := "ann" }, mode := .named .channel }
    let w : World Rehearsal.Cast := {
      registry := { commands := [{ name := "ale", standing := .listed }] }, memory := {} }
    ∃ outcomes, (s.dispatchWithin nestingLimit event).result w = .ok outcomes ∧
      outcomes.map (·.invoked) = [true] ∧
      ∃ word text, s.heard event w = some (word, text) ∧
        ∀ turn ∈ s.turns nestingLimit event word text w,
          s.TellsCall nestingLimit event text turn.1 turn.2 := by
  intro s event w
  have hone : (s.dispatchWithin nestingLimit event).result w =
      .ok [{ command := some 0, invoked := true, timed := true }] := rfl
  refine ⟨_, hone, rfl, ?_⟩
  rcases invoked_dispatchWithin s nestingLimit event w hone with
    ⟨-, hnone⟩ | ⟨word, text, hheard, -, -, hlaw⟩
  · cases (hnone _ (.head _)).1
  · refine ⟨word, text, hheard, fun turn hturn => (hlaw turn hturn).1.mpr ?_⟩
    rintro ⟨-, -, -, hchannelless⟩
    cases hchannelless

/-- The same line from a client who is in no channel: the outcome says that the handler was called,
and nothing was. -/
theorem not_tellsCall_rehearsed :
    let s : Setup Rehearsal.Cast := { host := Rehearsal.host fun _ => "" }
    let event : Event := {
      text := .text "!ale", client := { name := "ann", channels := 0 }, mode := .named .channel }
    let w : World Rehearsal.Cast := {
      registry := { commands := [{ name := "ale", standing := .listed }] }, memory := {} }
    (∃ o, (s.dispatch event).result w = .ok [o] ∧ o.command = some 0 ∧ o.invoked = true) ∧
      calls nestingLimit ((s.dispatch event).deeds w) = [] ∧
      ¬ ∀ turn ∈ s.turns nestingLimit event "ale" [] w,
        s.TellsCall nestingLimit event [] turn.1 turn.2 := by
  intro s event w
  refine ⟨⟨_, rfl, rfl, rfl⟩, rfl, fun hlaw => ?_⟩
  have hinvoked : ((s.attend nestingLimit (s.below nestingLimit) event [] 0).result
    (s.gathered event "ale" w)).invoked = true := rfl
  have hnone : s.summons nestingLimit event [] 0 (s.gathered event "ale" w) = [] := rfl
  obtain ⟨x, hx, -⟩ := ((hlaw (0, s.gathered event "ale" w) (.head _)).mp hinvoked).2
  rw [hnone] at hx
  cases hx

end Switchboard.Setup
