import Switchboard.Proofs.Deeds

/-!
# Proofs — Turn

The turn of one command in a pass: its text is evaluated, and then its fault is told to the caller,
or the caller is told that the command is gone, or its handler is called.

* `evaluate_ok`: an evaluation that succeeds says nothing but its record and, perhaps, one of the
  three faults of a grammar.
* `Settles`: the seven ways in which a turn ends, each with what it gives and the deeds it adds.
* `settle_settles`: every turn ends in one of them.
* `Settles.calls_eq`, `Settles.completes_or`: whom a turn calls, and what the caller is told.
* `attend_result`, `attend_calm`: a turn that fails is an outcome like any other.
-/

namespace Switchboard

variable {σ : Type}

/-- The outcome of a command that was settled, or could not be. -/
def Outcome.ofSettled (id : CommandId) : Except Failure Outcome → Outcome
  | .ok outcome => outcome
  | .error e => { command := some id, error := some e }

namespace Setup

variable (s : Setup σ)

/-! ### Evaluation -/

theorem requiredFault_kind {id : CommandId} {c : Command} {a : Argument} {r : Rejection}
    {u : World σ} {f : Fault} (h : (s.requiredFault id c a r).result u = .ok f) :
    f.kind = .requiredArgument := by
  obtain ⟨_, -, h⟩ := Run.result_bind_eq_ok.mp h
  obtain ⟨_, -, h⟩ := Run.result_bind_eq_ok.mp h
  obtain ⟨_, -, h⟩ := Run.result_bind_eq_ok.mp h
  cases h
  rfl

theorem optionalFault_kind {id : CommandId} {a : Argument} {r : Rejection} {u : World σ}
    {f : Fault} (h : (s.optionalFault id a r).result u = .ok f) :
    f.kind = .optionalArgument := by
  obtain ⟨_, -, h⟩ := Run.result_bind_eq_ok.mp h
  cases h
  rfl

theorem surplusFault_kind {id : CommandId} {c : Command} {u : World σ} {f : Fault}
    (h : (s.surplusFault id c).result u = .ok f) : f.kind = .tooManyArguments := by
  obtain ⟨_, -, h⟩ := Run.result_bind_eq_ok.mp h
  cases h
  rfl

theorem usageFault_kind {id : CommandId} {c : Command} {u : World σ} {f : Fault}
    (h : (s.usageFault id c).result u = .ok f) : f.kind = .invalidUsage := by
  obtain ⟨_, -, h⟩ := Run.result_bind_eq_ok.mp h
  cases h
  rfl

theorem verdictFault_kind {id : CommandId} {c : Command} {walk : Walk} {u : World σ} {f : Fault}
    (h : (s.verdictFault id c walk).result u = .ok (some f)) :
    f.kind = .requiredArgument ∨ f.kind = .optionalArgument ∨ f.kind = .tooManyArguments := by
  unfold verdictFault at h
  split at h
  · cases h
  · obtain ⟨g, hg, h⟩ := Run.result_bind_eq_ok.mp h
    cases h
    exact .inl (s.requiredFault_kind hg)
  · obtain ⟨_, -, h⟩ := Run.result_bind_eq_ok.mp h
    obtain ⟨g, hg, h⟩ := Run.result_bind_eq_ok.mp h
    cases h
    exact .inr (.inl (s.optionalFault_kind hg))
  · obtain ⟨_, -, h⟩ := Run.result_bind_eq_ok.mp h
    obtain ⟨g, hg, h⟩ := Run.result_bind_eq_ok.mp h
    cases h
    exact .inr (.inr (s.surplusFault_kind hg))

/-- The registry says what command is evaluated, and the walk over its grammar what record and fault
come of it. -/
theorem evaluate_eq_ok {id : CommandId} {text : List Char} {u : World σ} {o : Outcome}
    (h : (s.evaluate id text).result u = .ok o) :
    ∃ c walk, u.registry.command? id = some c ∧
      Walk.along (u.registry.grammar c) text = .ok walk ∧
      (s.verdictFault id c walk).result u = .ok o.fault ∧
      o = { command := some id, record := walk.record, fault := o.fault } := by
  obtain ⟨w, hw, h⟩ := Run.result_bind_eq_ok.mp h
  cases hw
  dsimp only at h
  split at h
  · cases h
  · rename_i c hc
    split at h
    · cases h
    · rename_i walk hwalk
      obtain ⟨fault, hfault, h⟩ := Run.result_bind_eq_ok.mp h
      cases h
      exact ⟨c, walk, hc, hwalk, hfault, rfl⟩

/-- A walk that comes to an end is evaluated to its record, and to the fault that it amounts to. -/
theorem evaluate_of_walk {id : CommandId} {c : Command} {u : World σ}
    (hc : u.registry.command? id = some c) {text : List Char} {w : Walk}
    (hwalk : Walk.along (u.registry.grammar c) text = .ok w) :
    (s.evaluate id text).result u = (do
      let fault ← s.verdictFault id c w
      return { command := some id, record := w.record, fault } : Run σ Outcome).result u := by
  rw [evaluate, Run.result_bind_ok (Run.result_get u)]
  simp only [Run.after_get, hc, hwalk]

/-- A walk that comes to an argument that cannot read ends the evaluation. -/
theorem evaluate_of_refusal {id : CommandId} {c : Command} {u : World σ}
    (hc : u.registry.command? id = some c) {text : List Char} {e : Refusal}
    (hwalk : Walk.along (u.registry.grammar c) text = .error e) :
    (s.evaluate id text).result u = .error e.toFailure := by
  rw [evaluate, Run.result_bind_ok (Run.result_get u)]
  simp only [Run.after_get, hc, hwalk]
  rfl

/-- A walk that nothing stands in the way of is evaluated to its record. -/
theorem evaluate_of_ready {id : CommandId} {c : Command} {u : World σ}
    (hc : u.registry.command? id = some c) {text : List Char} {w : Walk}
    (hwalk : Walk.along (u.registry.grammar c) text = .ok w)
    (hready : w.verdict c.tolerant = .ready) :
    (s.evaluate id text).result u = .ok { command := some id, record := w.record } := by
  rw [s.evaluate_of_walk hc hwalk, verdictFault, hready]
  rfl

/-- **What an evaluation says.**  It is about its command and about nothing that happened, and its
fault is one of the three of a grammar. -/
theorem evaluate_ok {id : CommandId} {text : List Char} {u : World σ} {o : Outcome}
    (h : (s.evaluate id text).result u = .ok o) :
    o.command = some id ∧ o.invoked = false ∧ o.timed = false ∧ o.error = none ∧
      ∀ f, o.fault = some f →
        f.kind = .requiredArgument ∨ f.kind = .optionalArgument ∨ f.kind = .tooManyArguments := by
  obtain ⟨c, walk, -, -, hfault, ho⟩ := s.evaluate_eq_ok h
  refine ⟨by rw [ho], by rw [ho], by rw [ho], by rw [ho], fun f hf => ?_⟩
  rw [hf] at hfault
  exact s.verdictFault_kind hfault

/-! ### How a turn ends -/

/-- How a handler that a pass of a depth calls dispatches another line. -/
def below : Nat → Event → Run σ (List Outcome)
  | 0 => fun _ => throw .nestedTooDeep
  | depth + 1 => s.dispatchWithin depth

theorem dispatchWithin_eq (depth : Nat) (event : Event) :
    s.dispatchWithin depth event = s.pass depth (s.below depth) event := by
  cases depth <;> rfl

/-- The circumstances in which a pass of a depth calls a handler. -/
def scene (depth : Nat) (event : Event) (target : Target) : Scene σ :=
  { event, target, depth, dispatch := s.below depth }

/-- The world in which a text has been evaluated. -/
def evaluated (id : CommandId) (text : List Char) (u : World σ) : World σ :=
  (s.evaluate id text).after u

/-- The deed of telling the caller of an event about a fault. -/
def notice (depth : Nat) (event : Event) (f : Fault) (error : Option Failure) : Entry :=
  .sent depth .notice (.caller event.client.name) f.render error

/-- **What it takes for the handler of a command to be called**, once its turn has come in the
world `u`. -/
structure Ready (event : Event) (text : List Char) (id : CommandId) (u : World σ) (c : Command)
    (o : Outcome) (target : Target) : Prop where
  /-- The text is evaluated, and nothing fails on the way. -/
  evaluates : (s.evaluate id text).result u = .ok o
  faultless : o.fault = none
  known : u.registry.command? id = some c
  /-- No handler before it destroyed the command. -/
  alive : c.isDestroyed = false
  /-- The mode of the event leads somewhere, if only to nowhere. -/
  reachable : s.target event = .ok target

/-- The ways in which the turn of a command ends that comes in the world `u`: what it gives, and
the deeds it adds. -/
inductive Settles (depth : Nat) (event : Event) (text : List Char) (id : CommandId)
    (u : World σ) : Except Failure Outcome → List Entry → Prop where
  /-- The text cannot be evaluated. -/
  | stalled {e : Failure} (heval : (s.evaluate id text).result u = .error e) :
      Settles depth event text id u (.error e) []
  /-- The caller is told about a fault of the text. -/
  | refused {o : Outcome} {f : Fault} (error : Option Failure)
      (heval : (s.evaluate id text).result u = .ok o) (hf : o.fault = some f) :
      Settles depth event text id u (.ok { o with fault := some f, error })
        [notice depth event f error]
  /-- The command is gone, and what to tell the caller cannot be worded. -/
  | unworded {o : Outcome} {c : Command} {e : Failure}
      (heval : (s.evaluate id text).result u = .ok o) (hf : o.fault = none)
      (hc : u.registry.command? id = some c) (hd : c.isDestroyed = true)
      (hw : (s.usageFault id c).result (s.evaluated id text u) = .error e) :
      Settles depth event text id u (.error e) []
  /-- The caller is told that the command is gone. -/
  | gone {o : Outcome} {c : Command} {f : Fault} (error : Option Failure)
      (heval : (s.evaluate id text).result u = .ok o) (hf : o.fault = none)
      (hc : u.registry.command? id = some c) (hd : c.isDestroyed = true)
      (hw : (s.usageFault id c).result (s.evaluated id text u) = .ok f) :
      Settles depth event text id u (.ok { o with fault := some f, error })
        [notice depth event f error]
  /-- Replies would have nowhere to go, and the caller is told about a failure. -/
  | unreachable {o : Outcome} {c : Command} {e : Failure} (error : Option Failure)
      (heval : (s.evaluate id text).result u = .ok o) (hf : o.fault = none)
      (hc : u.registry.command? id = some c) (hd : c.isDestroyed = false)
      (ht : s.target event = .error e) :
      Settles depth event text id u
        (.ok { command := some id, record := o.record, invoked := true,
               fault := some (handlerFault id), timed := true, error })
        [notice depth event (handlerFault id) error]
  /-- The handler is called and fails, and the caller is told about it. -/
  | crashed {c : Command} {o : Outcome} {target : Target} {e : Failure} {record : Record}
      {inner : List Entry} (error : Option Failure) (h : s.Ready event text id u c o target)
      (hcall : (s.call (s.scene depth event target) id c o.record).result
        (s.evaluated id text u) = (.error e, record))
      (hinner : ∀ x ∈ inner, x.Inside depth target) :
      Settles depth event text id u
        (.ok { command := some id, record, invoked := true,
               fault := some (handlerFault id), timed := true, error })
        (.called depth id c.handler
            { client := event.client, text := event.text, record := o.record } ::
          (inner ++ [notice depth event (handlerFault id) error]))
  /-- The handler is called and completes. -/
  | completed {c : Command} {o : Outcome} {target : Target} {v : Value} {record : Record}
      {inner : List Entry} (h : s.Ready event text id u c o target)
      (hcall : (s.call (s.scene depth event target) id c o.record).result
        (s.evaluated id text u) = (.ok v, record))
      (hinner : ∀ x ∈ inner, x.Inside depth target) :
      Settles depth event text id u
        (.ok { command := some id, record, invoked := true, timed := true })
        (.called depth id c.handler
          { client := event.client, text := event.text, record := o.record } :: inner)

@[simp] theorem calls_notice (depth : Nat) (event : Event) (f : Fault) (error : Option Failure) :
    calls depth [notice depth event f error] = [] :=
  rfl

@[simp] theorem notices_notice (depth : Nat) (event : Event) (f : Fault)
    (error : Option Failure) : notices depth [notice depth event f error] =
      [⟨.caller event.client.name, f.render, error⟩] := by
  simp [notices, notice, Entry.message?]

variable {s} {depth : Nat} {event : Event} {text : List Char} {id : CommandId} {u : World σ}

theorem evaluated_calm : Calm u (s.evaluated id text u) := s.evaluate_calm id text u

/-- Reporting a fault adds the notice of it. -/
theorem deeds_report (outcome : Outcome) (fault : Fault) (w : World σ) :
    ((s.report depth event outcome fault).after w).deeds =
      w.deeds ++ [notice depth event fault ((s.notify depth event.client fault).result w)] :=
  s.deeds_notify depth event.client fault w

/-- What comes of a handler that failed adds the notice of it. -/
theorem deeds_failed (c : Command) (record : Record) (e : Failure) (w : World σ) :
    ∃ error, (s.failed depth event id c record e).result w =
        { command := some id, record, invoked := true, fault := some (handlerFault id),
          timed := true, error } ∧
      ((s.failed depth event id c record e).after w).deeds =
        w.deeds ++ [notice depth event (handlerFault id) error] := by
  refine ⟨_, rfl, ?_⟩
  have h := s.deeds_notify depth event.client (handlerFault id)
    { w with trace := w.trace ++ [.log { event := .failed c.name, failure := none }] ++
      [.log { event := .handlerFailed c.name, failure := some e }] }
  have hlogs : World.deeds
      { w with trace := w.trace ++ [.log { event := .failed c.name, failure := none }] ++
        [.log { event := .handlerFailed c.name, failure := some e }] } = w.deeds :=
    (World.deeds_append_log { w with trace := _ } _).trans (w.deeds_append_log _)
  rw [hlogs] at h
  exact h

/-- A handler whose replies would have nowhere to go is not called. -/
theorem invoke_unreachable (depth : Nat) (id : CommandId) {e : Failure}
    (ht : s.target event = .error e) (dispatch : Event → Run σ (List Outcome)) (c : Command)
    (record : Record) (w : World σ) :
    ∃ error, (s.invoke depth dispatch event id c record).result w =
        { command := some id, record, invoked := true, fault := some (handlerFault id),
          timed := true, error } ∧
      ((s.invoke depth dispatch event id c record).after w).deeds =
        w.deeds ++ [notice depth event (handlerFault id) error] := by
  simp only [invoke, ht]
  exact deeds_failed c record e w

/-- A handler that fails leaves its deeds, and then the notice of its failure. -/
theorem invoke_crashed {target : Target} (ht : s.target event = .ok target) {c : Command}
    {given record : Record} {e : Failure} {w : World σ}
    (hcall : (s.call (s.scene depth event target) id c given).result w = (.error e, record)) :
    ∃ error, (s.invoke depth (s.below depth) event id c given).result w =
        { command := some id, record, invoked := true, fault := some (handlerFault id),
          timed := true, error } ∧
      ((s.invoke depth (s.below depth) event id c given).after w).deeds =
        ((s.call (s.scene depth event target) id c given).after w).deeds ++
          [notice depth event (handlerFault id) error] := by
  simp only [scene] at hcall
  simp only [invoke, ht, scene, Step.result_bind, Step.after_bind, hcall]
  exact deeds_failed c record e _

/-- A handler that completes leaves its deeds and no more. -/
theorem invoke_completed {target : Target} (ht : s.target event = .ok target) {c : Command}
    {given record : Record} {v : Value} {w : World σ}
    (hcall : (s.call (s.scene depth event target) id c given).result w = (.ok v, record)) :
    (s.invoke depth (s.below depth) event id c given).result w =
        { command := some id, record, invoked := true, timed := true } ∧
      ((s.invoke depth (s.below depth) event id c given).after w).deeds =
        ((s.call (s.scene depth event target) id c given).after w).deeds := by
  simp only [scene] at hcall
  simp only [invoke, ht, scene, Step.result_bind, Step.after_bind, hcall]
  exact ⟨rfl, World.deeds_append_log _ _⟩

/-- A turn whose text has a fault is the report of it. -/
theorem settle_of_fault (depth : Nat) (event : Event) {o : Outcome} {f : Fault}
    (heval : (s.evaluate id text).result u = .ok o) (hf : o.fault = some f)
    (dispatch : Event → Run σ (List Outcome)) :
    (s.settle depth dispatch event text id).result u =
        .ok ((s.report depth event o f).result (s.evaluated id text u)) ∧
      (s.settle depth dispatch event text id).after u =
        (s.report depth event o f).after (s.evaluated id text u) := by
  rw [settle, Run.result_bind_ok heval, Run.after_bind_ok heval]
  simp only [hf, Run.result_lift, Run.after_lift]
  exact ⟨rfl, rfl⟩

/-- A turn whose text has no fault depends on whether the command is still there. -/
theorem settle_of_faultless (depth : Nat) (event : Event) {o : Outcome} {c : Command}
    (heval : (s.evaluate id text).result u = .ok o) (hf : o.fault = none)
    (hc : u.registry.command? id = some c) (dispatch : Event → Run σ (List Outcome)) :
    let rest : Run σ Outcome :=
      if c.isDestroyed then do
        let fault ← s.usageFault id c
        s.report depth event o fault
      else s.invoke depth dispatch event id c o.record
    (s.settle depth dispatch event text id).result u = rest.result (s.evaluated id text u) ∧
      (s.settle depth dispatch event text id).after u = rest.after (s.evaluated id text u) := by
  -- The command is looked up again after the evaluation, which has not touched the registry.
  have hc' : ((s.evaluate id text).after u).registry.command? id = some c := by
    rw [(s.evaluate_calm id text u).1, hc]
  rw [settle, Run.result_bind_ok heval, Run.after_bind_ok heval]
  simp only [hf, Run.result_bind, Run.after_bind, Run.result_get, Run.after_get, hc']
  exact ⟨rfl, rfl⟩

/-- The turn of a command that is gone is worth a notice, if it can be worded. -/
theorem gone_settles {o : Outcome} {c : Command} (heval : (s.evaluate id text).result u = .ok o)
    (hf : o.fault = none) (hc : u.registry.command? id = some c) (hgone : c.isDestroyed = true) :
    let rest : Run σ Outcome := do
      let fault ← s.usageFault id c
      s.report depth event o fault
    ∃ added, (rest.after (s.evaluated id text u)).deeds = u.deeds ++ added ∧
      s.Settles depth event text id u (rest.result (s.evaluated id text u)) added := by
  intro rest
  have hworded : ((s.usageFault id c).after (s.evaluated id text u)).deeds = u.deeds :=
    (s.usageFault_calm id c _).2.trans evaluated_calm.2
  cases hw : (s.usageFault id c).result (s.evaluated id text u) with
  | error e =>
      rw [Run.result_bind_error hw, Run.after_bind_error hw, hworded]
      exact ⟨[], (List.append_nil _).symm, .unworded heval hf hc hgone hw⟩
  | ok f =>
      rw [Run.result_bind_ok hw, Run.after_bind_ok hw, Run.after_lift, deeds_report, hworded]
      exact ⟨_, rfl, .gone _ heval hf hc hgone hw⟩

/-- The turn of a command that is there is worth a call, if replies have somewhere to go. -/
theorem invoke_settles
    (hd : ∀ event, (s.below depth event).Within (Adds (Entry.Below depth))) {o : Outcome}
    {c : Command} (heval : (s.evaluate id text).result u = .ok o) (hf : o.fault = none)
    (hc : u.registry.command? id = some c) (halive : c.isDestroyed = false) :
    let rest := s.invoke depth (s.below depth) event id c o.record
    ∃ added, (rest.after (s.evaluated id text u)).deeds = u.deeds ++ added ∧
      s.Settles depth event text id u (.ok (rest.result (s.evaluated id text u))) added := by
  intro rest
  have hdeeds : (s.evaluated id text u).deeds = u.deeds := evaluated_calm.2
  cases ht : s.target event with
  | error e =>
      obtain ⟨error, hi, hnotice⟩ := invoke_unreachable depth id ht (s.below depth) c o.record
        (s.evaluated id text u)
      rw [hi, hnotice, hdeeds]
      exact ⟨_, rfl, .unreachable error heval hf hc halive ht⟩
  | ok target =>
      have ready : s.Ready event text id u c o target := ⟨heval, hf, hc, halive, ht⟩
      obtain ⟨inner, hcalled, hinner⟩ := s.deeds_call (s.scene depth event target) hd id c
        o.record (s.evaluated id text u)
      rw [hdeeds] at hcalled
      rcases hcall : (s.call (s.scene depth event target) id c o.record).result
        (s.evaluated id text u) with ⟨e | v, record⟩
      · obtain ⟨error, hi, hnotice⟩ := invoke_crashed ht hcall
        rw [hi, hnotice, hcalled, List.append_assoc]
        exact ⟨_, rfl, .crashed error ready hcall hinner⟩
      · obtain ⟨hi, hkept⟩ := invoke_completed ht hcall
        rw [hi, hkept, hcalled]
        exact ⟨_, rfl, .completed ready hcall hinner⟩

/-- **Every turn ends in one of these ways**, if the passes inside of it keep to deeds below its
depth. -/
theorem settle_settles (s : Setup σ) (depth : Nat) (event : Event) (text : List Char)
    (id : CommandId) (u : World σ)
    (hd : ∀ event, (s.below depth event).Within (Adds (Entry.Below depth))) :
    ∃ added, ((s.settle depth (s.below depth) event text id).after u).deeds = u.deeds ++ added ∧
      s.Settles depth event text id u ((s.settle depth (s.below depth) event text id).result u)
        added := by
  have hdeeds : (s.evaluated id text u).deeds = u.deeds := evaluated_calm.2
  cases heval : (s.evaluate id text).result u with
  | error e =>
      refine ⟨[], ?_, ?_⟩
      · rw [settle, Run.after_bind_error heval, List.append_nil]
        exact hdeeds
      · rw [settle, Run.result_bind_error heval]
        exact .stalled heval
  | ok o =>
      cases hf : o.fault with
      | some f =>
          obtain ⟨hr, ha⟩ := settle_of_fault depth event heval hf (s.below depth)
          rw [hr, ha, deeds_report, hdeeds]
          exact ⟨_, rfl, .refused _ heval hf⟩
      | none =>
          obtain ⟨c, -, hc, -, -, -⟩ := s.evaluate_eq_ok heval
          obtain ⟨hr, ha⟩ := settle_of_faultless depth event heval hf hc (s.below depth)
          rw [hr, ha]
          cases hgone : c.isDestroyed with
          | true =>
              simp only [if_true]
              exact gone_settles heval hf hc hgone
          | false =>
              simp only [Bool.false_eq_true, if_false, Run.result_lift, Run.after_lift]
              exact invoke_settles hd heval hf hc hgone

/-! ### What a turn amounts to -/

section

variable (s) (depth : Nat) (event : Event) (text : List Char) (id : CommandId) (u : World σ)

/-- The handler of a command is called and completes, once its turn has come in the world `u`. -/
def Completes : Prop :=
  ∃ c o target v record, s.Ready event text id u c o target ∧
    (s.call (s.scene depth event target) id c o.record).result (s.evaluated id text u) =
      (.ok v, record)

/-- There are no words for the fault of a command whose turn has come in the world `u`: its text
cannot be evaluated, or it cannot be said that the command is gone. -/
inductive Stalls : Prop where
  | evaluating {e : Failure} (h : (s.evaluate id text).result u = .error e)
  | wording {o : Outcome} {c : Command} {e : Failure}
      (heval : (s.evaluate id text).result u = .ok o) (hf : o.fault = none)
      (hc : u.registry.command? id = some c) (hd : c.isDestroyed = true)
      (hw : (s.usageFault id c).result (s.evaluated id text u) = .error e)

end

section

variable {c c' : Command} {o o' : Outcome} {target target' : Target}

/-- There is one way to be ready. -/
theorem Ready.unique (h : s.Ready event text id u c o target)
    (h' : s.Ready event text id u c' o' target') : c = c' ∧ o = o' ∧ target = target' :=
  ⟨Option.some.inj (h.known.symm.trans h'.known),
    Except.ok.inj (h.evaluates.symm.trans h'.evaluates),
    Except.ok.inj (h.reachable.symm.trans h'.reachable)⟩

theorem not_ready_of_error {e : Failure} (heval : (s.evaluate id text).result u = .error e) :
    ¬ s.Ready event text id u c o target := by
  intro h
  cases heval.symm.trans h.evaluates

theorem not_ready_of_fault {f : Fault} (heval : (s.evaluate id text).result u = .ok o')
    (hf : o'.fault = some f) : ¬ s.Ready event text id u c o target := by
  intro h
  cases heval.symm.trans h.evaluates
  cases hf.symm.trans h.faultless

theorem not_ready_of_gone (hc : u.registry.command? id = some c') (hd : c'.isDestroyed = true) :
    ¬ s.Ready event text id u c o target := by
  intro h
  cases hc.symm.trans h.known
  cases hd.symm.trans h.alive

theorem not_ready_of_unreachable {e : Failure} (ht : s.target event = .error e) :
    ¬ s.Ready event text id u c o target := by
  intro h
  cases ht.symm.trans h.reachable

/-- What cannot be called does not complete. -/
theorem not_completes (h : ∀ c o target, ¬ s.Ready event text id u c o target) :
    ¬ s.Completes depth event text id u := by
  rintro ⟨c, o, target, -, -, hready, -⟩
  exact h c o target hready

/-- A handler that fails does not complete. -/
theorem not_completes_of_crash {e : Failure} {record : Record}
    (h : s.Ready event text id u c o target)
    (hcall : (s.call (s.scene depth event target) id c o.record).result
      (s.evaluated id text u) = (.error e, record)) : ¬ s.Completes depth event text id u := by
  rintro ⟨c', o', target', v, record', h', hcall'⟩
  obtain ⟨rfl, rfl, rfl⟩ := h.unique h'
  cases hcall.symm.trans hcall'

/-- A text that was evaluated stalls a turn only if the command is gone. -/
theorem not_stalls_of_alive (heval : (s.evaluate id text).result u = .ok o)
    (hc : u.registry.command? id = some c) (hd : c.isDestroyed = false) :
    ¬ s.Stalls text id u := by
  rintro (h | ⟨-, -, hc', hd', -⟩)
  · cases heval.symm.trans h
  · cases hc.symm.trans hc'
    cases hd.symm.trans hd'

theorem not_stalls_of_fault {f : Fault} (heval : (s.evaluate id text).result u = .ok o)
    (hf : o.fault = some f) : ¬ s.Stalls text id u := by
  rintro (h | ⟨heval', hf', -, -, -⟩)
  · cases heval.symm.trans h
  · cases heval.symm.trans heval'
    cases hf.symm.trans hf'

theorem not_stalls_of_worded {f : Fault} (heval : (s.evaluate id text).result u = .ok o)
    (hc : u.registry.command? id = some c)
    (hw : (s.usageFault id c).result (s.evaluated id text u) = .ok f) : ¬ s.Stalls text id u := by
  rintro (h | ⟨-, -, hc', -, hw'⟩)
  · cases heval.symm.trans h
  · cases hc.symm.trans hc'
    cases hw.symm.trans hw'

end

section

variable {r : Except Failure Outcome} {added : List Entry}

/-- **A turn calls the handler of its command if and only if it is ready**, and then once, with the
record of the evaluation. -/
theorem Settles.calls_eq (h : s.Settles depth event text id u r added) :
    (calls depth added = [] ∧ ∀ c o target, ¬ s.Ready event text id u c o target) ∨
      ∃ c o target, s.Ready event text id u c o target ∧
        calls depth added = [⟨id, c.handler,
          { client := event.client, text := event.text, record := o.record }⟩] := by
  cases h with
  | stalled heval => exact .inl ⟨rfl, fun _ _ _ => not_ready_of_error heval⟩
  | refused error heval hf => exact .inl ⟨rfl, fun _ _ _ => not_ready_of_fault heval hf⟩
  | unworded _ _ hc hd => exact .inl ⟨rfl, fun _ _ _ => not_ready_of_gone hc hd⟩
  | gone error _ _ hc hd => exact .inl ⟨rfl, fun _ _ _ => not_ready_of_gone hc hd⟩
  | unreachable error _ _ _ _ ht => exact .inl ⟨rfl, fun _ _ _ => not_ready_of_unreachable ht⟩
  | crashed error hready _ hinner =>
      refine .inr ⟨_, _, _, hready, ?_⟩
      rw [calls_called, calls_append, calls_of_inside hinner]
      rfl
  | completed hready _ hinner =>
      refine .inr ⟨_, _, _, hready, ?_⟩
      rw [calls_called, calls_of_inside hinner]

/-- **A turn completes, or the caller is told its fault, or it stalls.**  Nobody is told anything
about a turn that completes; nor about one that stalls, whose outcome has an error and no fault. -/
theorem Settles.completes_or (h : s.Settles depth event text id u r added) :
    (s.Completes depth event text id u ∧ ¬ s.Stalls text id u ∧
        (Outcome.ofSettled id r).fault = none ∧ (Outcome.ofSettled id r).error = none ∧
        notices depth added = []) ∨
      (¬ s.Completes depth event text id u ∧ ¬ s.Stalls text id u ∧
        ∃ f, (Outcome.ofSettled id r).fault = some f ∧ notices depth added =
          [⟨.caller event.client.name, f.render, (Outcome.ofSettled id r).error⟩]) ∨
      (¬ s.Completes depth event text id u ∧ s.Stalls text id u ∧
        (Outcome.ofSettled id r).fault = none ∧ (Outcome.ofSettled id r).error ≠ none ∧
        notices depth added = []) := by
  cases h with
  | stalled heval =>
      exact .inr (.inr ⟨not_completes fun _ _ _ => not_ready_of_error heval, .evaluating heval,
        rfl, Option.some_ne_none _, rfl⟩)
  | refused error heval hf =>
      exact .inr (.inl ⟨not_completes fun _ _ _ => not_ready_of_fault heval hf,
        not_stalls_of_fault heval hf, _, rfl, notices_notice _ _ _ _⟩)
  | unworded heval hf hc hd hw =>
      exact .inr (.inr ⟨not_completes fun _ _ _ => not_ready_of_gone hc hd,
        .wording heval hf hc hd hw, rfl, Option.some_ne_none _, rfl⟩)
  | gone error heval hf hc hd hw =>
      exact .inr (.inl ⟨not_completes fun _ _ _ => not_ready_of_gone hc hd,
        not_stalls_of_worded heval hc hw, _, rfl, notices_notice _ _ _ _⟩)
  | unreachable error heval hf hc hd ht =>
      exact .inr (.inl ⟨not_completes fun _ _ _ => not_ready_of_unreachable ht,
        not_stalls_of_alive heval hc hd, _, rfl, notices_notice _ _ _ _⟩)
  | crashed error hready hcall hinner =>
      refine .inr (.inl ⟨not_completes_of_crash hready hcall,
        not_stalls_of_alive hready.evaluates hready.known hready.alive, _, rfl, ?_⟩)
      rw [notices_called, notices_append, notices_of_inside hinner, notices_notice]
      rfl
  | completed hready hcall hinner =>
      refine .inl ⟨⟨_, _, _, _, _, hready, hcall⟩,
        not_stalls_of_alive hready.evaluates hready.known hready.alive, rfl, rfl, ?_⟩
      rw [notices_called, notices_of_inside hinner]

end

/-! ### A turn that fails -/

/-- **A turn that fails is an outcome like any other**, of the same command. -/
theorem attend_result (s : Setup σ) (depth : Nat) (event : Event) (text : List Char)
    (id : CommandId) (u : World σ) :
    (s.attend depth (s.below depth) event text id).result u =
      .ofSettled id ((s.settle depth (s.below depth) event text id).result u) := by
  simp only [attend, Step.result_bind, Run.step_result_run, Run.step_after_run]
  cases (s.settle depth (s.below depth) event text id).result u with
  | ok o => rfl
  | error e => rfl

/-- Making an outcome of a turn that fails adds no deed. -/
theorem attend_calm (s : Setup σ) (depth : Nat) (event : Event) (text : List Char)
    (id : CommandId) (u : World σ) :
    Calm ((s.settle depth (s.below depth) event text id).after u)
      ((s.attend depth (s.below depth) event text id).after u) := by
  simp only [attend, Step.after_bind, Run.step_result_run, Run.step_after_run]
  cases (s.settle depth (s.below depth) event text id).result u with
  | ok o => exact refl _
  | error e => exact Step.log_calm _ _ _

end Setup

end Switchboard
