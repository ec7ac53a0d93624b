import Switchboard.Proofs.Pass
import Switchboard.Rehearsal

/-!
# Proofs — Notices

What callers are told about the commands that their lines are for.

* `OneNotice`: a command that completes causes no notice, and any other one causes one notice, to
  the caller's private chat.
* `oneNotice_iff`: a turn keeps to this law exactly if it does not stall.
* `notices_of_candidates`: the notices of a pass with candidates are those of its turns, so each of
  its candidates is under the law exactly if its turn does not stall.
-/

namespace Switchboard.Setup

variable {σ : Type} {s : Setup σ}

/-- The notices that the turn of a command adds. -/
def told (s : Setup σ) (depth : Nat) (event : Event) (text : List Char) (id : CommandId)
    (u : World σ) : List Message :=
  notices depth ((s.attend depth (s.below depth) event text id).deeds u)

/-- **One notice for a command that does not complete, and none for one that does.** -/
structure OneNotice (s : Setup σ) (depth : Nat) (event : Event) (text : List Char)
    (id : CommandId) (u : World σ) : Prop where
  completed : s.Completes depth event text id u → s.told depth event text id u = []
  otherwise : ¬ s.Completes depth event text id u →
    ∃ message, s.told depth event text id u = [message] ∧
      message.sink = .caller event.client.name

/-- A turn keeps to the law exactly if it does not stall; one that stalls tells nobody anything. -/
theorem oneNotice_iff {depth : Nat} {event : Event} {text : List Char} {id : CommandId}
    {u : World σ} :
    (s.OneNotice depth event text id u ↔ ¬ s.Stalls text id u) ∧
      (s.Stalls text id u →
        ¬ s.Completes depth event text id u ∧ s.told depth event text id u = []) := by
  obtain ⟨r, -, hsettles⟩ := attend_ends s depth event text id u
  rcases hsettles.completes_or with
    ⟨hcompletes, hstalls, -, -, htold⟩ | ⟨hnot, hstalls, f, -, htold⟩ | ⟨hnot, hstalls, -, -, htold⟩
  · have hlaw : s.OneNotice depth event text id u := ⟨fun _ => htold, fun h => absurd hcompletes h⟩
    exact ⟨iff_of_true hlaw hstalls, fun h => absurd h hstalls⟩
  · have hlaw : s.OneNotice depth event text id u :=
      ⟨fun h => absurd h hnot, fun _ => ⟨_, htold, rfl⟩⟩
    exact ⟨iff_of_true hlaw hstalls, fun h => absurd h hstalls⟩
  · have hbroken : ¬ s.OneNotice depth event text id u := by
      intro hlaw
      obtain ⟨message, hone, -⟩ := hlaw.otherwise hnot
      cases hone.symm.trans htold
    exact ⟨iff_of_false hbroken fun h => h hstalls, fun _ => ⟨hnot, htold⟩⟩

/-- **The notices of a pass with candidates are those of its turns**, and a turn causes one notice,
or none if its handler completes, exactly if it does not stall.  It stalls if its text cannot be
evaluated, or if its command is gone and there are no words to say so; then nobody is told. -/
theorem notices_of_candidates (s : Setup σ) (depth : Nat) (event : Event) (w : World σ)
    {word : String} {text : List Char} (hself : event.isSelf = false)
    (hline : (s.split? event.text).result w = some (word, text))
    (hsome : s.candidates event word w ≠ []) :
    (s.turns depth event word text w).map (·.1) = s.candidates event word w ∧
      notices depth ((s.dispatchWithin depth event).deeds w) =
        ((s.turns depth event word text w).flatMap fun turn =>
          s.told depth event text turn.1 turn.2) ∧
      ∀ turn ∈ s.turns depth event word text w,
        (s.OneNotice depth event text turn.1 turn.2 ↔ ¬ s.Stalls text turn.1 turn.2) ∧
          (s.Stalls text turn.1 turn.2 → s.told depth event text turn.1 turn.2 = []) := by
  have hheard : s.heard event w = some (word, text) := heard_eq_some.mpr ⟨hself, hline⟩
  refine ⟨map_fst_turns depth event word text w, ?_, fun turn _ => ?_⟩
  · rw [(dispatchWithin_of_candidates hheard hsome depth).2, notices_flatMap]
    rfl
  · exact ⟨oneNotice_iff.1, fun h => (oneNotice_iff.2 h).2⟩

/-- A command that asks for a text, and a line without one: the turn keeps to the law. -/
theorem notices_of_candidates_rehearsed :
    let s : Setup Rehearsal.Cast := { host := Rehearsal.host fun _ => "" }
    let event : Event := { text := .text "!ale", client := { name := "ann" } }
    let w : World Rehearsal.Cast := {
      registry := {
        commands := [{ name := "ale", grammar := [0], standing := .listed }]
        arguments := [.string {} {}] }
      memory := {} }
    event.isSelf = false ∧ (s.split? event.text).result w = some ("ale", []) ∧
      s.candidates event "ale" w = [0] ∧
      ∀ turn ∈ s.turns nestingLimit event "ale" [] w,
        s.OneNotice nestingLimit event [] turn.1 turn.2 ↔ ¬ s.Stalls [] turn.1 turn.2 := by
  intro s event w
  have hline : (s.split? event.text).result w = some ("ale", []) := rfl
  have hcandidates : s.candidates event "ale" w = [0] := rfl
  have hsome : s.candidates event "ale" w ≠ [] := by
    rw [hcandidates]
    exact List.cons_ne_nil _ _
  obtain ⟨-, -, hlaw⟩ := notices_of_candidates s nestingLimit event w rfl hline hsome
  exact ⟨rfl, hline, hcandidates, fun turn hturn => (hlaw turn hturn).1⟩

/-- A grammar with an argument of no kind: nobody is told that the command was not called. -/
theorem not_oneNotice_rehearsed :
    let s : Setup Rehearsal.Cast := { host := Rehearsal.host fun _ => "" }
    let event : Event := { text := .text "!ale", client := { name := "ann" } }
    let w : World Rehearsal.Cast := {
      registry := {
        commands := [{ name := "ale", grammar := [0], standing := .listed }]
        arguments := [.bare {}] }
      memory := {} }
    s.candidates event "ale" w = [0] ∧
      notices nestingLimit ((s.dispatch event).deeds w) = [] ∧
      ¬ ∀ turn ∈ s.turns nestingLimit event "ale" [] w,
        s.OneNotice nestingLimit event [] turn.1 turn.2 := by
  intro s event w
  refine ⟨rfl, rfl, fun hlaw => ?_⟩
  have hstalled : (s.evaluate 0 []).result (s.gathered event "ale" w) =
      .error (Refusal.unusable .noKind).toFailure := rfl
  have hnot : ¬ s.Completes nestingLimit event [] 0 (s.gathered event "ale" w) :=
    not_completes fun _ _ _ => not_ready_of_error hstalled
  obtain ⟨message, hone, -⟩ := (hlaw (0, s.gathered event "ale" w) (.head _)).otherwise hnot
  have hnone : s.told nestingLimit event [] 0 (s.gathered event "ale" w) = [] := rfl
  cases hone.symm.trans hnone

end Switchboard.Setup
