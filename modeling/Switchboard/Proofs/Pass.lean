import Switchboard.Proofs.Listing
import Switchboard.Proofs.Turn

/-!
# Proofs — Pass

The pass over an event, from the line to the turns of its candidates.  The commands that a word
calls for are polled one after the other, and those that grant the caller leave are the candidates;
then each candidate has its turn.  Where a poll or a turn starts is part of what is said about it,
since what came before may have changed the world.

* `admitted_result`: the candidates are those that were polled and granted leave.
* `settleAll_result`, `settleAll_deeds`: what comes of the turns, and the deeds they add, is what
  comes of each.
* `Passes`: the five ways in which a pass ends, each with what it gives and the deeds it adds.
* `dispatchWithin_passes`, `attend_ends`: every pass and every turn ends in one of its ways,
  whatever handlers do.
* `dispatchWithin_of_candidates`: with candidates, a pass is their turns.
-/

namespace Switchboard

variable {σ : Type}

namespace Setup

variable (s : Setup σ)

/-! ### From the line to the candidates -/

/-- The word and the text of an event, if it is a line for this switchboard. -/
def heard (event : Event) (w : World σ) : Option (String × List Char) :=
  if event.isSelf then none else (s.split? event.text).result w

/-- The marker that the notices of a pass show: it is read after the line was taken apart. -/
def shownMarker (event : Event) (w : World σ) : String :=
  s.marker.result ((s.split? event.text).after w)

/-- The world in which the registry is searched. -/
def searched (event : Event) (w : World σ) : World σ :=
  s.marker.after ((s.split? event.text).after w)

/-- The predicate of a command says yes to a client. -/
def Grants (client : Client) (id : CommandId) (u : World σ) : Prop :=
  ∃ c, u.registry.command? id = some c ∧ (s.permits c client).result u = .ok true

/-- The commands that a word calls for, each with the world in which its predicate is asked. -/
def polls (event : Event) (word : String) (w : World σ) : List (CommandId × World σ) :=
  visits (s.admits event.client) (w.registry.find word) (s.searched event w)

/-- The commands that a word calls for and that grant the caller leave. -/
def candidates (event : Event) (word : String) (w : World σ) : List CommandId :=
  ((s.polls event word w).filter fun poll => (s.admits event.client poll.1).result poll.2).map
    (·.1)

/-- The world in which the candidates are known. -/
def gathered (event : Event) (word : String) (w : World σ) : World σ :=
  (s.admitted event.client (w.registry.find word)).after (s.searched event w)

/-- The candidates, each with the world in which its turn comes. -/
def turns (depth : Nat) (event : Event) (word : String) (text : List Char) (w : World σ) :
    List (CommandId × World σ) :=
  visits (s.attend depth (s.below depth) event text) (s.candidates event word w)
    (s.gathered event word w)

/-- What to tell the caller when a word has no candidate, if anything. -/
def apology (event : Event) (word : String) (w : World σ) : Option (Run σ Fault) :=
  if w.registry.find word = [] then
    if s.config.answerUnknown then some (s.unknownFault (s.shownMarker event w) word) else none
  else some (s.deniedFault (s.shownMarker event w) word)

variable {s}

theorem heard_eq_some {event : Event} {w : World σ} {line : String × List Char} :
    s.heard event w = some line ↔
      event.isSelf = false ∧ (s.split? event.text).result w = some line := by
  cases hself : event.isSelf <;> simp [heard, hself]

theorem searched_calm (event : Event) (w : World σ) : Calm w (s.searched event w) :=
  IsTrans.trans _ _ _ (s.split?_calm event.text w) (s.marker_calm _)

theorem gathered_calm (event : Event) (word : String) (w : World σ) :
    Calm w (s.gathered event word w) :=
  IsTrans.trans _ _ _ (searched_calm event w) (s.admitted_calm event.client _ _)

/-- **A predicate that raises denies**, and so does one that is not there to be asked. -/
theorem admits_result {client : Client} {id : CommandId} {u : World σ} :
    (s.admits client id).result u = true ↔ s.Grants client id u := by
  simp only [admits, Grants, Step.result_bind, Step.result_get, Step.after_get]
  cases u.registry.command? id with
  | none => simp
  | some c =>
      simp only [Step.result_bind, Run.step_result_run, Option.some.injEq, exists_eq_left']
      cases (s.permits c client).result u with
      | ok allowed => simp
      | error e => simp [Step.result_bind, -bind_pure_comp]

theorem admitted_result (client : Client) (ids : List CommandId) (u : World σ) :
    (s.admitted client ids).result u =
      ((visits (s.admits client) ids u).filter fun poll =>
        (s.admits client poll.1).result poll.2).map (·.1) := by
  induction ids generalizing u with
  | nil => rfl
  | cons id ids ih =>
      simp only [admitted, visits, Step.result_bind, ih, Step.result_pure, List.filter_cons]
      split <;> rfl

/-- **Who is granted leave** among some commands: those whose predicate, asked in its turn, says
yes. -/
theorem mem_admitted {client : Client} {ids : List CommandId} {u : World σ} {id : CommandId} :
    id ∈ (s.admitted client ids).result u ↔
      id ∈ ids ∧ ∃ c, u.registry.command? id = some c ∧
        ∃ v, (id, v) ∈ visits (s.admits client) ids u ∧
          (s.permits c client).result v = .ok true := by
  have hregistry : ∀ {i v}, (i, v) ∈ visits (s.admits client) ids u → v.registry = u.registry :=
    fun h => (visits_within (s.admits_calm client) h).1
  simp only [admitted_result, List.mem_map, List.mem_filter, admits_result, Prod.exists]
  constructor
  · rintro ⟨i, v, ⟨hv, c, hc, hpermits⟩, rfl⟩
    rw [hregistry hv] at hc
    have hmem := List.mem_map_of_mem (f := (·.1)) hv
    rw [map_fst_visits] at hmem
    exact ⟨hmem, c, hc, v, hv, hpermits⟩
  · rintro ⟨-, c, hc, v, hv, hpermits⟩
    rw [← hregistry hv] at hc
    exact ⟨id, v, ⟨hv, c, hc, hpermits⟩, rfl⟩

/-- Those who are granted leave come in the order in which they were asked about. -/
theorem admitted_sublist (client : Client) (ids : List CommandId) (u : World σ) :
    ((s.admitted client ids).result u).Sublist ids := by
  have h := (List.filter_sublist (p := fun poll : CommandId × World σ =>
    (s.admits client poll.1).result poll.2) (l := visits (s.admits client) ids u)).map (·.1)
  rwa [map_fst_visits, ← admitted_result] at h

theorem candidates_eq (event : Event) (word : String) (w : World σ) :
    s.candidates event word w =
      (s.admitted event.client (w.registry.find word)).result (s.searched event w) :=
  (admitted_result _ _ _).symm

/-- **Who is a candidate**: the commands that are listed, enabled and answer to the word when the
pass begins, and whose predicate, asked in this pass, says yes. -/
theorem mem_candidates {event : Event} {word : String} {w : World σ} {id : CommandId} :
    id ∈ s.candidates event word w ↔
      ∃ c, w.registry.command? id = some c ∧ c.isListed = true ∧ c.answersTo word = true ∧
        c.enabled = true ∧
        ∃ v, (id, v) ∈ s.polls event word w ∧ (s.permits c event.client).result v = .ok true := by
  rw [candidates_eq, mem_admitted, (searched_calm event w).1, Registry.mem_find]
  constructor
  · rintro ⟨⟨c, hc, hlisted, hanswers, henabled⟩, c', hc', hgranted⟩
    cases hc.symm.trans hc'
    exact ⟨c, hc, hlisted, hanswers, henabled, hgranted⟩
  · rintro ⟨c, hc, hlisted, hanswers, henabled, hgranted⟩
    exact ⟨⟨c, hc, hlisted, hanswers, henabled⟩, c, hc, hgranted⟩

/-- **Candidates come in the order of the registry**, and no other commands. -/
theorem candidates_sublist (event : Event) (word : String) (w : World σ) :
    (s.candidates event word w).Sublist (w.registry.find word) := by
  rw [candidates_eq]
  exact admitted_sublist _ _ _

/-! ### The turns of the candidates -/

theorem settleAll_result (depth : Nat) (dispatch : Event → Run σ (List Outcome)) (event : Event)
    (text : List Char) (ids : List CommandId) (u : World σ) :
    (s.settleAll depth dispatch event text ids).result u =
      (visits (s.attend depth dispatch event text) ids u).map fun turn =>
        (s.attend depth dispatch event text turn.1).result turn.2 := by
  induction ids generalizing u with
  | nil => rfl
  | cons id ids ih => simp only [settleAll, visits, Step.result_bind, ih, Step.result_pure,
      List.map_cons]

/-- The deeds of the turns follow each other as the turns do. -/
theorem settleAll_deeds {P : Entry → Prop} (depth : Nat)
    (dispatch : Event → Run σ (List Outcome)) (event : Event) (text : List Char)
    (hP : ∀ id, (s.attend depth dispatch event text id).Within (Adds P)) (ids : List CommandId)
    (u : World σ) :
    ((s.settleAll depth dispatch event text ids).after u).deeds = u.deeds ++
      (visits (s.attend depth dispatch event text) ids u).flatMap fun turn =>
        (s.attend depth dispatch event text turn.1).deeds turn.2 := by
  induction ids generalizing u with
  | nil => exact (List.append_nil _).symm
  | cons id ids ih =>
      simp only [settleAll, visits, Step.after_bind, Step.after_pure, ih, List.flatMap_cons]
      rw [(hP id).deeds_append u, List.append_assoc]

/-- A turn ends in one of its ways, and what is made of it then adds no deed. -/
theorem attend_settles (s : Setup σ) (depth : Nat)
    (hd : ∀ event, (s.below depth event).Within (Adds (Entry.Below depth))) (event : Event)
    (text : List Char) (id : CommandId) (u : World σ) :
    ∃ r added, ((s.attend depth (s.below depth) event text id).after u).deeds = u.deeds ++ added ∧
      (s.attend depth (s.below depth) event text id).result u = .ofSettled id r ∧
      s.Settles depth event text id u r added := by
  obtain ⟨added, hdeeds, hsettles⟩ := settle_settles s depth event text id u hd
  refine ⟨_, added, ?_, s.attend_result depth event text id u, hsettles⟩
  rw [(s.attend_calm depth event text id u).2, hdeeds]

/-- A turn adds deeds of its own depth and below. -/
theorem Settles.all_below {depth : Nat} {event : Event} {text : List Char} {id : CommandId}
    {u : World σ} {r : Except Failure Outcome} {added : List Entry}
    (h : s.Settles depth event text id u r added) : ∀ e ∈ added, e.Below (depth + 1) := by
  have hnotice : ∀ f error, (notice depth event f error).Below (depth + 1) :=
    fun _ _ => Nat.lt_succ_self depth
  cases h with
  | stalled | unworded => simp
  | refused error | gone error | unreachable error =>
      intro e he
      rw [List.mem_singleton.mp he]
      exact hnotice _ _
  | crashed error _ _ hinner =>
      intro e he
      rcases List.mem_cons.mp he with rfl | he
      · exact Nat.lt_succ_self depth
      · rcases List.mem_append.mp he with he | he
        · exact (hinner e he).below_succ
        · rw [List.mem_singleton.mp he]
          exact hnotice _ _
  | completed _ _ hinner =>
      intro e he
      rcases List.mem_cons.mp he with rfl | he
      · exact Nat.lt_succ_self depth
      · exact (hinner e he).below_succ

/-! ### How a pass ends -/

variable (s)

/-- The ways in which the pass over an event ends that starts in the world `w`: what it gives, and
the deeds it adds. -/
inductive Passes (depth : Nat) (event : Event) (w : World σ) :
    Except Failure (List Outcome) → List Entry → Prop where
  /-- The event is no line for this switchboard. -/
  | ignored (h : s.heard event w = none) : Passes depth event w (.ok []) []
  /-- No command comes up, and nobody is to be told so. -/
  | silent {word : String} {text : List Char} (h : s.heard event w = some (word, text))
      (hnone : s.candidates event word w = []) (ha : s.apology event word w = none) :
      Passes depth event w (.ok []) []
  /-- No command comes up, and what to tell the caller cannot be worded. -/
  | speechless {word : String} {text : List Char} {a : Run σ Fault} {e : Failure}
      (h : s.heard event w = some (word, text)) (hnone : s.candidates event word w = [])
      (ha : s.apology event word w = some a) (he : a.result (s.gathered event word w) = .error e) :
      Passes depth event w (.error e) []
  /-- No command comes up, and the caller is told so. -/
  | turnedAway {word : String} {text : List Char} {a : Run σ Fault} {f : Fault}
      (error : Option Failure) (h : s.heard event w = some (word, text))
      (hnone : s.candidates event word w = []) (ha : s.apology event word w = some a)
      (hf : a.result (s.gathered event word w) = .ok f) :
      Passes depth event w (.ok [{ fault := some f, error }]) [notice depth event f error]
  /-- Every candidate has its turn. -/
  | settled {word : String} {text : List Char} (h : s.heard event w = some (word, text))
      (hsome : s.candidates event word w ≠ []) :
      Passes depth event w
        (.ok ((s.turns depth event word text w).map fun turn =>
          (s.attend depth (s.below depth) event text turn.1).result turn.2))
        ((s.turns depth event word text w).flatMap fun turn =>
          (s.attend depth (s.below depth) event text turn.1).deeds turn.2)

variable {s}

/-- A pass goes on from its word with what is left of the line. -/
theorem pass_of_heard {event : Event} {word : String} {text : List Char} {w : World σ}
    (h : s.heard event w = some (word, text)) (depth : Nat)
    (dispatch : Event → Run σ (List Outcome)) :
    let rest := s.route depth dispatch event (s.shownMarker event w) word text
    (s.pass depth dispatch event).result w = rest.result (s.searched event w) ∧
      (s.pass depth dispatch event).after w = rest.after (s.searched event w) := by
  obtain ⟨hself, h⟩ := heard_eq_some.mp h
  simp only [pass, hself, Bool.false_eq_true, if_false, Run.result_bind, Run.after_bind,
    Run.result_lift, Run.after_lift, h]
  exact ⟨rfl, rfl⟩

theorem pass_of_not_heard {event : Event} {w : World σ} (h : s.heard event w = none)
    (depth : Nat) (dispatch : Event → Run σ (List Outcome)) :
    (s.pass depth dispatch event).result w = .ok [] ∧
      ((s.pass depth dispatch event).after w).deeds = w.deeds := by
  cases hself : event.isSelf with
  | true => simp [pass, hself]
  | false =>
      simp only [heard, hself, Bool.false_eq_true, if_false] at h
      simp only [pass, hself, Bool.false_eq_true, if_false, Run.result_bind, Run.after_bind,
        Run.result_lift, Run.after_lift, h]
      exact ⟨rfl, (s.split?_calm event.text w).2⟩

/-- With candidates, what is left of a pass is their turns. -/
theorem route_of_candidates {event : Event} {word : String} {w : World σ}
    (hsome : s.candidates event word w ≠ []) (depth : Nat)
    (dispatch : Event → Run σ (List Outcome)) (marker : String) (text : List Char) :
    let rest := s.settleAll depth dispatch event text (s.candidates event word w)
    (s.route depth dispatch event marker word text).result (s.searched event w) =
        .ok (rest.result (s.gathered event word w)) ∧
      (s.route depth dispatch event marker word text).after (s.searched event w) =
        rest.after (s.gathered event word w) := by
  have hfind : w.registry.find word ≠ [] := by
    intro hfind
    exact hsome (List.sublist_nil.mp (hfind ▸ candidates_sublist event word w))
  have hregistry : (s.searched event w).registry = w.registry := (searched_calm event w).1
  have hadmitted : (s.admitted event.client (w.registry.find word)).result (s.searched event w) =
      s.candidates event word w := admitted_result _ _ _
  simp only [route, Run.result_bind, Run.after_bind, Run.result_get, Run.after_get,
    Run.result_lift, Run.after_lift, hregistry, hadmitted]
  exact ⟨rfl, rfl⟩

/-- Without candidates, what is left of a pass is to tell the caller, if there is anything to
tell. -/
theorem route_of_no_candidates {event : Event} {word : String} {w : World σ}
    (hnone : s.candidates event word w = []) (depth : Nat)
    (dispatch : Event → Run σ (List Outcome)) (text : List Char) :
    let rest : Run σ (List Outcome) :=
      match s.apology event word w with
      | none => do
        (Step.log (.silent word) : Step σ Unit)
        return []
      | some a => do
        let fault ← a
        return [← s.report depth event {} fault]
    let route := s.route depth dispatch event (s.shownMarker event w) word text
    route.result (s.searched event w) = rest.result (s.gathered event word w) ∧
      route.after (s.searched event w) = rest.after (s.gathered event word w) := by
  have hregistry : (s.searched event w).registry = w.registry := (searched_calm event w).1
  have hadmitted : (s.admitted event.client (w.registry.find word)).result (s.searched event w) =
      [] := (admitted_result _ _ _).trans hnone
  simp only [route, Run.result_bind, Run.after_bind, Run.result_get, Run.after_get, hregistry]
  by_cases hfind : w.registry.find word = []
  · simp only [hfind, apology, if_true]
    have hgathered : s.gathered event word w = s.searched event w := by
      rw [gathered, hfind]
      rfl
    rw [hgathered]
    cases s.config.answerUnknown with
    | true => exact ⟨rfl, rfl⟩
    | false => exact ⟨rfl, rfl⟩
  · simp only [apology, hfind, if_false, Run.result_bind, Run.after_bind, Run.result_lift,
      Run.after_lift, hadmitted]
    exact ⟨rfl, rfl⟩

theorem apology_calm {event : Event} {word : String} {w : World σ} {a : Run σ Fault}
    (h : s.apology event word w = some a) : a.Within Calm := by
  unfold apology at h
  split at h
  · split at h
    · cases h
      exact s.unknownFault_calm _ _
    · cases h
  · cases h
    exact s.deniedFault_calm _ _

/-- Without candidates a pass is over once the caller is told so, or cannot be. -/
theorem route_passes_of_no_candidates {depth : Nat} {event : Event} {word : String}
    {text : List Char} {w : World σ} (hheard : s.heard event w = some (word, text))
    (hnone : s.candidates event word w = []) :
    let route := s.route depth (s.below depth) event (s.shownMarker event w) word text
    ∃ added, (route.after (s.searched event w)).deeds = w.deeds ++ added ∧
      s.Passes depth event w (route.result (s.searched event w)) added := by
  intro route
  obtain ⟨hr, ha⟩ := route_of_no_candidates hnone depth (s.below depth) text
  have hgathered : (s.gathered event word w).deeds = w.deeds := (gathered_calm event word w).2
  rw [hr, ha]
  cases hapology : s.apology event word w with
  | none =>
      refine ⟨[], ?_, .silent hheard hnone hapology⟩
      rw [List.append_nil, ← hgathered]
      exact World.deeds_append_log _ _
  | some a =>
      have hworded : (a.after (s.gathered event word w)).deeds = w.deeds :=
        (apology_calm hapology _).2.trans hgathered
      cases hf : a.result (s.gathered event word w) with
      | error e =>
          simp only [Run.result_bind_error hf, Run.after_bind_error hf, hworded]
          exact ⟨[], (List.append_nil _).symm, .speechless hheard hnone hapology hf⟩
      | ok f =>
          simp only [Run.result_bind_ok hf, Run.after_bind_ok hf]
          refine ⟨_, ?_, .turnedAway _ hheard hnone hapology hf⟩
          rw [← hworded]
          exact deeds_report {} f _

/-- With candidates a pass is over once each of them had its turn. -/
theorem route_passes_of_candidates {depth : Nat}
    (hd : ∀ event, (s.below depth event).Within (Adds (Entry.Below depth))) {event : Event}
    {word : String} {text : List Char} {w : World σ}
    (hheard : s.heard event w = some (word, text)) (hsome : s.candidates event word w ≠ []) :
    let route := s.route depth (s.below depth) event (s.shownMarker event w) word text
    ∃ added, (route.after (s.searched event w)).deeds = w.deeds ++ added ∧
      s.Passes depth event w (route.result (s.searched event w)) added := by
  intro route
  obtain ⟨hr, ha⟩ := route_of_candidates hsome depth (s.below depth) (s.shownMarker event w) text
  have hgathered : (s.gathered event word w).deeds = w.deeds := (gathered_calm event word w).2
  have hturn : ∀ id, (s.attend depth (s.below depth) event text id).Within
      (Adds (Entry.Below (depth + 1))) := by
    intro id u
    obtain ⟨r, added, hadded, -, hsettles⟩ := attend_settles s depth hd event text id u
    exact ⟨added, hadded, hsettles.all_below⟩
  rw [hr, ha, settleAll_result, settleAll_deeds depth (s.below depth) event text hturn, hgathered]
  exact ⟨_, rfl, .settled hheard hsome⟩

/-- A pass ends in one of its ways, if the passes inside of it keep to deeds below its depth. -/
theorem pass_passes (depth : Nat)
    (hd : ∀ event, (s.below depth event).Within (Adds (Entry.Below depth))) (event : Event)
    (w : World σ) :
    ∃ added, ((s.pass depth (s.below depth) event).after w).deeds = w.deeds ++ added ∧
      s.Passes depth event w ((s.pass depth (s.below depth) event).result w) added := by
  cases hheard : s.heard event w with
  | none =>
      obtain ⟨hr, ha⟩ := pass_of_not_heard hheard depth (s.below depth)
      rw [hr, ha]
      exact ⟨[], (List.append_nil _).symm, .ignored hheard⟩
  | some line =>
      obtain ⟨word, text⟩ := line
      obtain ⟨hr, ha⟩ := pass_of_heard hheard depth (s.below depth)
      rw [hr, ha]
      by_cases hnone : s.candidates event word w = []
      · exact route_passes_of_no_candidates hheard hnone
      · exact route_passes_of_candidates hd hheard hnone

/-- A pass adds deeds of its own depth and below. -/
theorem Passes.all_below {depth : Nat}
    (hd : ∀ event, (s.below depth event).Within (Adds (Entry.Below depth))) {event : Event}
    {w : World σ} {r : Except Failure (List Outcome)} {added : List Entry}
    (h : s.Passes depth event w r added) : ∀ e ∈ added, e.Below (depth + 1) := by
  cases h with
  | ignored | silent | speechless => simp
  | turnedAway error =>
      intro e he
      rw [List.mem_singleton.mp he]
      exact Nat.lt_succ_self depth
  | settled =>
      intro e he
      obtain ⟨⟨id, u⟩, -, he⟩ := List.mem_flatMap.mp he
      obtain ⟨r, deeds, hdeeds, -, hsettles⟩ := attend_settles s depth hd event _ id u
      rw [Step.deeds_eq hdeeds] at he
      exact hsettles.all_below e he

/-- **The passes inside of a pass keep to deeds below its depth**, whatever handlers do. -/
theorem below_adds (s : Setup σ) (depth : Nat) (event : Event) :
    (s.below depth event).Within (Adds (Entry.Below depth)) := by
  -- The depth bounds how often a handler's line is dispatched inside of another one's.
  induction depth generalizing event with
  | zero => exact .throw _
  | succ depth ih =>
      intro w
      -- The pass inside is one of the next depth, of whose own inside `ih` speaks.
      rw [below, dispatchWithin_eq]
      obtain ⟨added, hadded, hpasses⟩ := pass_passes depth ih event w
      exact ⟨added, hadded, hpasses.all_below ih⟩

/-- **Every pass ends in one of its ways**, and the deeds that it adds are those of that way. -/
theorem dispatchWithin_passes (s : Setup σ) (depth : Nat) (event : Event) (w : World σ) :
    s.Passes depth event w ((s.dispatchWithin depth event).result w)
      ((s.dispatchWithin depth event).deeds w) := by
  obtain ⟨added, hadded, hpasses⟩ := pass_passes depth (below_adds s depth) event w
  rw [← dispatchWithin_eq] at hadded hpasses
  rwa [Run.deeds_eq hadded]

/-- **With candidates, a pass is their turns**: it gives what they give, and adds the deeds that
they add. -/
theorem dispatchWithin_of_candidates {event : Event} {word : String} {text : List Char}
    {w : World σ} (h : s.heard event w = some (word, text))
    (hsome : s.candidates event word w ≠ []) (depth : Nat) :
    (s.dispatchWithin depth event).result w =
        .ok ((s.turns depth event word text w).map fun turn =>
          (s.attend depth (s.below depth) event text turn.1).result turn.2) ∧
      (s.dispatchWithin depth event).deeds w =
        (s.turns depth event word text w).flatMap fun turn =>
          (s.attend depth (s.below depth) event text turn.1).deeds turn.2 := by
  have hpasses := dispatchWithin_passes s depth event w
  generalize (s.dispatchWithin depth event).result w = r at hpasses ⊢
  generalize (s.dispatchWithin depth event).deeds w = added at hpasses ⊢
  cases hpasses with
  | ignored h' => cases h'.symm.trans h
  | silent h' hnone | speechless h' hnone | turnedAway _ h' hnone =>
      cases h'.symm.trans h
      exact absurd hnone hsome
  | settled h' =>
      cases h'.symm.trans h
      exact ⟨rfl, rfl⟩

theorem map_fst_turns (depth : Nat) (event : Event) (word : String) (text : List Char)
    (w : World σ) :
    (s.turns depth event word text w).map (·.1) = s.candidates event word w :=
  map_fst_visits _ _ _

theorem mem_candidates_of_mem_turns {depth : Nat} {event : Event} {word : String}
    {text : List Char} {w u : World σ} {id : CommandId}
    (h : (id, u) ∈ s.turns depth event word text w) : id ∈ s.candidates event word w := by
  rw [← map_fst_turns depth event word text w]
  exact List.mem_map_of_mem h

/-- **Every turn ends in one of its ways**, and the deeds that it adds are those of that way. -/
theorem attend_ends (s : Setup σ) (depth : Nat) (event : Event) (text : List Char)
    (id : CommandId) (u : World σ) :
    ∃ r, (s.attend depth (s.below depth) event text id).result u = .ofSettled id r ∧
      s.Settles depth event text id u r
        ((s.attend depth (s.below depth) event text id).deeds u) := by
  obtain ⟨r, added, hadded, hr, hsettles⟩ :=
    attend_settles s depth (below_adds s depth) event text id u
  rw [Step.deeds_eq hadded]
  exact ⟨r, hr, hsettles⟩

end Setup

end Switchboard
