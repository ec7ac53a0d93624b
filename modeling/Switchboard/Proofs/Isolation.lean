import Switchboard.Proofs.Pass
import Switchboard.Rehearsal

/-!
# Proofs — Isolation

Whatever goes wrong with one command stays with it.

* `Outcome.Shape`: the four shapes of the outcome of a command.
* `outcomes_of_candidates`: a pass with candidates gives one outcome for each of them, in order and
  of one of the four shapes, whatever raises and whatever handlers do to the registry.
* `dispatchWithin_eq_error`: a pass fails exactly if there is no candidate and the formatter raises
  while the caller is to be told so.
-/

namespace Switchboard

variable {σ : Type}

/-! ### One outcome for each candidate -/

/-- The outcome of a command that a line was for. -/
inductive Outcome.Shape : Outcome → Prop where
  /-- The handler was called and completed. -/
  | completed (id : CommandId) (record : Record) :
      Shape { command := some id, record, invoked := true, timed := true }
  /-- The handler failed, or its replies would have had nowhere to go. -/
  | crashed (id : CommandId) (record : Record) (fault : Fault) (error : Option Failure)
      (h : fault.kind = .handler) :
      Shape { command := some id, record, invoked := true, fault := some fault, timed := true,
              error }
  /-- The text has a fault, or the command is gone. -/
  | refused (id : CommandId) (record : Record) (fault : Fault) (error : Option Failure)
      (h : fault.kind = .requiredArgument ∨ fault.kind = .optionalArgument ∨
        fault.kind = .tooManyArguments ∨ fault.kind = .invalidUsage) :
      Shape { command := some id, record, fault := some fault, error }
  /-- There were no words for what is wrong. -/
  | stuck (id : CommandId) (e : Failure) : Shape { command := some id, error := some e }

namespace Setup

variable {s : Setup σ} {depth : Nat} {event : Event} {text : List Char} {id : CommandId}
  {u : World σ} {r : Except Failure Outcome} {added : List Entry}

/-- An outcome of an evaluation is its command's, and its record and fault are all that it says. -/
theorem outcome_of_evaluate {o : Outcome} (h : (s.evaluate id text).result u = .ok o) :
    o = { command := some id, record := o.record, fault := o.fault } := by
  obtain ⟨hcommand, hinvoked, htimed, herror, -⟩ := s.evaluate_ok h
  cases o
  simp_all

/-- **A turn gives its command's outcome**, of one of the four shapes. -/
theorem Settles.shape (h : s.Settles depth event text id u r added) :
    (Outcome.ofSettled id r).command = some id ∧ (Outcome.ofSettled id r).Shape := by
  cases h with
  | stalled | unworded => exact ⟨rfl, .stuck _ _⟩
  | refused error heval hf =>
      obtain ⟨-, -, -, -, hkind⟩ := s.evaluate_ok heval
      rw [outcome_of_evaluate heval]
      refine ⟨rfl, .refused _ _ _ _ ?_⟩
      rcases hkind _ hf with h | h | h
      · exact .inl h
      · exact .inr (.inl h)
      · exact .inr (.inr (.inl h))
  | gone error heval hf hc hd hw =>
      rw [outcome_of_evaluate heval]
      exact ⟨rfl, .refused _ _ _ _ (.inr (.inr (.inr (s.usageFault_kind hw))))⟩
  | unreachable | crashed => exact ⟨rfl, .crashed _ _ _ _ rfl⟩
  | completed => exact ⟨rfl, .completed _ _⟩

/-- What comes of a turn is of one of the four shapes, and has neither a fault nor an error only if
the handler completed. -/
theorem attend_outcome (s : Setup σ) (depth : Nat) (event : Event) (text : List Char)
    (id : CommandId) (u : World σ) :
    let o := (s.attend depth (s.below depth) event text id).result u
    o.command = some id ∧ o.Shape ∧
      (o.fault = none → o.error = none → s.Completes depth event text id u) := by
  intro o
  obtain ⟨r, hr, hsettles⟩ := attend_ends s depth event text id u
  rw [show o = .ofSettled id r from hr]
  refine ⟨hsettles.shape.1, hsettles.shape.2, fun hfault herror => ?_⟩
  rcases hsettles.completes_or with ⟨h, -⟩ | ⟨-, -, f, hf, -⟩ | ⟨-, -, -, he, -⟩
  · exact h
  · cases hf.symm.trans hfault
  · exact absurd herror he

/-- **A pass with candidates gives one outcome for each of them**, in the order of the registry in
which it began, whatever raises and whatever handlers do to the registry meanwhile.  Every outcome
has one of the four shapes, and one that has neither a fault nor an error is that of a handler that
was called and completed. -/
theorem outcomes_of_candidates (s : Setup σ) (depth : Nat) (event : Event) (w : World σ)
    {word : String} {text : List Char} (hself : event.isSelf = false)
    (hline : (s.split? event.text).result w = some (word, text))
    (hsome : s.candidates event word w ≠ []) :
    (∀ id, id ∈ s.candidates event word w ↔
        ∃ c, w.registry.command? id = some c ∧ c.isListed = true ∧ c.answersTo word = true ∧
          c.enabled = true ∧ ∃ v, (id, v) ∈ s.polls event word w ∧
            (s.permits c event.client).result v = .ok true) ∧
      (s.candidates event word w).Sublist w.registry.order ∧ w.registry.order.Nodup ∧
      ∃ outcomes, (s.dispatchWithin depth event).result w = .ok outcomes ∧
        outcomes.map (·.command) = (s.candidates event word w).map some ∧
        (∀ o ∈ outcomes, o.Shape) ∧
        ∀ o ∈ outcomes, o.fault = none → o.error = none →
          ∃ id u, o.command = some id ∧ (id, u) ∈ s.turns depth event word text w ∧
            s.Completes depth event text id u := by
  have hheard : s.heard event w = some (word, text) := heard_eq_some.mpr ⟨hself, hline⟩
  refine ⟨fun id => mem_candidates, ?_, w.registry.order_nodup, ?_⟩
  · exact (candidates_sublist event word w).trans (w.registry.find_sublist word)
  refine ⟨_, (dispatchWithin_of_candidates hheard hsome depth).1, ?_, ?_, ?_⟩
  · rw [← map_fst_turns depth event word text w, List.map_map, List.map_map]
    exact List.map_congr_left fun turn _ => (attend_outcome s depth event text turn.1 turn.2).1
  · intro o ho
    obtain ⟨turn, -, rfl⟩ := List.mem_map.mp ho
    exact (attend_outcome s depth event text turn.1 turn.2).2.1
  · intro o ho hfault herror
    obtain ⟨turn, hturn, rfl⟩ := List.mem_map.mp ho
    obtain ⟨hcommand, -, hcompletes⟩ := attend_outcome s depth event text turn.1 turn.2
    exact ⟨turn.1, turn.2, hcommand, hturn, hcompletes hfault herror⟩

/-- Two commands answer to one word, and the predicate of the first one raises: the second one has
an outcome. -/
theorem outcomes_of_candidates_rehearsed :
    let s : Setup Rehearsal.Cast := { host := Rehearsal.host fun _ => "" }
    let event : Event := { text := .text "!ale", client := { name := "ann" } }
    let w : World Rehearsal.Cast := {
      registry := { commands := [
        { name := "ale", standing := .listed, permission := some (.host 0) },
        { name := "beer", aliases := ["ale"], standing := .listed }] }
      memory := { predicates := [.fails] } }
    event.isSelf = false ∧ (s.split? event.text).result w = some ("ale", []) ∧
      s.candidates event "ale" w = [1] ∧
      ∃ outcomes, (s.dispatchWithin nestingLimit event).result w = .ok outcomes ∧
        outcomes.map (·.command) = [some 1] ∧ ∀ o ∈ outcomes, o.Shape := by
  intro s event w
  have hline : (s.split? event.text).result w = some ("ale", []) := rfl
  have hcandidates : s.candidates event "ale" w = [1] := rfl
  have hsome : s.candidates event "ale" w ≠ [] := by
    rw [hcandidates]
    exact List.cons_ne_nil _ _
  obtain ⟨-, -, -, outcomes, hr, hcommands, hshape, -⟩ :=
    outcomes_of_candidates s nestingLimit event w rfl hline hsome
  exact ⟨rfl, hline, hcandidates, outcomes, hr, hcommands, hshape⟩

/-! ### A pass that fails -/

/-- The formatter raises on one of two texts that it is given one after the other. -/
inductive Falters (s : Setup σ) (first second : String) (u : World σ) (e : Failure) : Prop where
  | first (h : (s.bold first).result u = .error e)
  | second {shown : String} (hshown : (s.bold first).result u = .ok shown)
      (h : (s.bold second).result ((s.bold first).after u) = .error e)

theorem helpHint_eq_error {marker : String} {e : Failure} :
    (s.helpHint marker).result u = .error e ↔
      (s.bold (marker ++ "help")).result u = .error e := by
  simp [helpHint]

/-- A notice about a line, which shows a text and hints at the list of commands, fails to be worded
if the formatter falters. -/
theorem hinted_eq_error (make : String → String → Fault) {first marker : String} {e : Failure} :
    Run.result (do return make (← s.bold first) (← s.helpHint marker)) u = .error e ↔
      s.Falters first (marker ++ "help") u e := by
  simp only [Run.result_bind_eq_error, bind_pure_comp, Run.result_map_eq_error, helpHint_eq_error]
  constructor
  · rintro (h | ⟨shown, hshown, h⟩)
    · exact .first h
    · exact .second hshown h
  · rintro (h | ⟨hshown, h⟩)
    · exact .inl h
    · exact .inr ⟨_, hshown, h⟩

theorem unknownFault_eq_error {marker word : String} {e : Failure} :
    (s.unknownFault marker word).result u = .error e ↔
      s.Falters (marker ++ word) (marker ++ "help") u e :=
  hinted_eq_error _

theorem deniedFault_eq_error {marker word : String} {e : Failure} :
    (s.deniedFault marker word).result u = .error e ↔
      s.Falters word (marker ++ "help") u e :=
  hinted_eq_error _

/-- What to tell a caller without candidates fails to be worded if it is to be told and the
formatter falters over it. -/
theorem apology_eq_error {word : String} {w : World σ} {e : Failure} :
    (∃ a, s.apology event word w = some a ∧ a.result u = .error e) ↔
      (w.registry.find word = [] ∧ s.config.answerUnknown = true ∧
          s.Falters (s.shownMarker event w ++ word) (s.shownMarker event w ++ "help") u e) ∨
        (w.registry.find word ≠ [] ∧
          s.Falters word (s.shownMarker event w ++ "help") u e) := by
  by_cases hfind : w.registry.find word = []
  · cases hanswer : s.config.answerUnknown with
    | true => simp [apology, hfind, hanswer, unknownFault_eq_error]
    | false => simp [apology, hfind, hanswer]
  · simp [apology, hfind, deniedFault_eq_error]

theorem Passes.eq_error {w : World σ} {r : Except Failure (List Outcome)} {e : Failure}
    (h : s.Passes depth event w r added) :
    r = .error e ↔ ∃ word text, s.heard event w = some (word, text) ∧
      s.candidates event word w = [] ∧
      ∃ a, s.apology event word w = some a ∧ a.result (s.gathered event word w) = .error e := by
  constructor
  · rintro rfl
    cases h with
    | speechless hheard hnone ha he => exact ⟨_, _, hheard, hnone, _, ha, he⟩
  · rintro ⟨word, text, hheard, hnone, a, ha, he⟩
    cases h with
    | ignored h' => cases h'.symm.trans hheard
    | silent h' _ ha' =>
        cases h'.symm.trans hheard
        cases ha'.symm.trans ha
    | speechless h' _ ha' he' =>
        cases h'.symm.trans hheard
        cases ha'.symm.trans ha
        cases he'.symm.trans he
        rfl
    | turnedAway _ h' _ ha' hf =>
        cases h'.symm.trans hheard
        cases ha'.symm.trans ha
        cases hf.symm.trans he
    | settled h' hsome =>
        cases h'.symm.trans hheard
        exact absurd hnone hsome

/-- **When a pass fails**: exactly if the event is a line for this switchboard, no command comes up
for it, the caller is to be told so, and the formatter raises over the notice.  Nothing else that
raises gets out of a pass: no accessor, predicate, grammar, handler or chat. -/
theorem dispatchWithin_eq_error (s : Setup σ) (depth : Nat) (event : Event) (w : World σ)
    (e : Failure) :
    (s.dispatchWithin depth event).result w = .error e ↔
      event.isSelf = false ∧ ∃ word text,
        (s.split? event.text).result w = some (word, text) ∧
        s.candidates event word w = [] ∧
        ((w.registry.find word = [] ∧ s.config.answerUnknown = true ∧
            s.Falters (s.shownMarker event w ++ word) (s.shownMarker event w ++ "help")
              (s.gathered event word w) e) ∨
          (w.registry.find word ≠ [] ∧
            s.Falters word (s.shownMarker event w ++ "help") (s.gathered event word w) e)) := by
  rw [(dispatchWithin_passes s depth event w).eq_error]
  constructor
  · rintro ⟨word, text, hheard, hnone, ha⟩
    obtain ⟨hself, hline⟩ := heard_eq_some.mp hheard
    exact ⟨hself, word, text, hline, hnone, apology_eq_error.mp ha⟩
  · rintro ⟨hself, word, text, hline, hnone, ha⟩
    exact ⟨word, text, heard_eq_some.mpr ⟨hself, hline⟩, hnone, apology_eq_error.mpr ha⟩

/-- A line that names no command, and a formatter that raises: nothing is returned. -/
theorem dispatch_not_ok_rehearsed :
    let s : Setup Rehearsal.Cast :=
      { host := Rehearsal.host fun _ => "", config := { bold := some (.host 0) } }
    let event : Event := { text := .text "!nope", client := { name := "ann" } }
    let w : World Rehearsal.Cast := { memory := { formatter := .fails } }
    ¬ ∃ outcomes, (s.dispatch event).result w = .ok outcomes := by
  intro s event w
  have hfails : (s.dispatch event).result w =
      .error (.raised "RuntimeError" "bold failed") := rfl
  rintro ⟨outcomes, h⟩
  cases hfails.symm.trans h

end Setup

end Switchboard
