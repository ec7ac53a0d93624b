import Switchboard.Dispatch
import Switchboard.Proofs.Running

/-!
# Proofs — Deeds

The *deeds* of a world are the entries of its trace that are more than a record of the log: the
texts handed to sinks and the handlers called.  A step that only asks the host and logs is *calm*:
it leaves the registry and the deeds as they are.  Everything that decides about a command is calm.

* `Minds R`: a setup that puts faults into words within `R` evaluates texts within `R`.
* `Heeds R`: whatever is asked of the host and logged is within `R`, and so is what is made of it.
* `Step.Within Calm`: the marker, the formatter, the predicates, the wording of faults.
* `evaluate_calm`, `admitted_calm`: evaluating a text and asking the predicates do nothing else.
* `deeds_notify`: a notice is one text to the private chat of the caller, and the failure to take
  it is the failure that is given back.
* `perform_adds`: a handler adds replies of its own depth, to the target of the event, and what
  passes inside of it do.
-/

namespace Switchboard

variable {σ α β : Type}

/-! ### Entries -/

/-- Whether an entry is more than a record of the log. -/
def Entry.isDeed : Entry → Bool
  | .log _ => false
  | _ => true

/-- The texts that were handed to sinks and the handlers that were called, in order. -/
def World.deeds (w : World σ) : List Entry := w.trace.filter Entry.isDeed

/-- The deed belongs to a pass below a depth, that is, inside of a pass of that depth. -/
def Entry.Below (depth : Nat) : Entry → Prop
  | .log _ => True
  | .sent k .. | .called k .. => k < depth

/-- The deed is a handler's, called by a pass of a depth for an event with a target: a reply to the
target, or a deed of a pass inside. -/
def Entry.Inside (depth : Nat) (target : Target) (e : Entry) : Prop :=
  e.Below depth ∨
    ∃ sink text failure, target = .sink sink ∧ e = .sent depth .reply sink text failure

/-- A text that was handed to a sink, which may have failed to take it. -/
structure Message where
  sink : Sink
  text : String
  failure : Option Failure

/-- A handler that was called. -/
structure Summons where
  command : CommandId
  handler : Handler
  call : Call

/-- The message that an entry is, among those of an origin in the passes of a depth. -/
def Entry.message? (depth : Nat) (origin : Origin) : Entry → Option Message
  | .sent k o sink text failure =>
      if k = depth ∧ o = origin then some ⟨sink, text, failure⟩ else none
  | _ => none

/-- The call that an entry is, among those of the passes of a depth. -/
def Entry.summons? (depth : Nat) : Entry → Option Summons
  | .called k command handler call => if k = depth then some ⟨command, handler, call⟩ else none
  | _ => none

/-- The notices among deeds: what the passes of a depth told callers. -/
def notices (depth : Nat) (deeds : List Entry) : List Message :=
  deeds.filterMap (Entry.message? depth .notice)

/-- The handlers that the passes of a depth called, among deeds. -/
def calls (depth : Nat) (deeds : List Entry) : List Summons :=
  deeds.filterMap (Entry.summons? depth)

@[simp] theorem notices_append (depth : Nat) (xs ys : List Entry) :
    notices depth (xs ++ ys) = notices depth xs ++ notices depth ys :=
  List.filterMap_append

@[simp] theorem calls_append (depth : Nat) (xs ys : List Entry) :
    calls depth (xs ++ ys) = calls depth xs ++ calls depth ys :=
  List.filterMap_append

theorem notices_flatMap {ι : Type} (depth : Nat) (f : ι → List Entry) (is : List ι) :
    notices depth (is.flatMap f) = is.flatMap fun i => notices depth (f i) :=
  List.filterMap_flatMap

theorem calls_flatMap {ι : Type} (depth : Nat) (f : ι → List Entry) (is : List ι) :
    calls depth (is.flatMap f) = is.flatMap fun i => calls depth (f i) :=
  List.filterMap_flatMap

@[simp] theorem calls_called (depth : Nat) (id : CommandId) (handler : Handler) (call : Call)
    (xs : List Entry) :
    calls depth (.called depth id handler call :: xs) = ⟨id, handler, call⟩ :: calls depth xs := by
  simp [calls, Entry.summons?]

@[simp] theorem notices_called (depth k : Nat) (id : CommandId) (handler : Handler) (call : Call)
    (xs : List Entry) : notices depth (.called k id handler call :: xs) = notices depth xs :=
  rfl

theorem Entry.Below.mono {j k : Nat} {e : Entry} (h : e.Below j) (hjk : j ≤ k) : e.Below k := by
  cases e with
  | log => trivial
  | sent | called => exact Nat.lt_of_lt_of_le h hjk

theorem Entry.Inside.below_succ {depth : Nat} {target : Target} {e : Entry}
    (h : e.Inside depth target) : e.Below (depth + 1) := by
  rcases h with h | ⟨sink, text, failure, -, rfl⟩
  · exact h.mono (Nat.le_succ depth)
  · exact Nat.lt_succ_self depth

theorem Entry.message?_of_below {depth : Nat} {origin : Origin} {e : Entry}
    (h : e.Below depth) : e.message? depth origin = none := by
  cases e with
  | log | called => rfl
  | sent k o sink text failure =>
      have hk : k ≠ depth := Nat.ne_of_lt h
      simp [Entry.message?, hk]

theorem Entry.summons?_of_below {depth : Nat} {e : Entry} (h : e.Below depth) :
    e.summons? depth = none := by
  cases e with
  | log | sent => rfl
  | called k command handler call =>
      have hk : k ≠ depth := Nat.ne_of_lt h
      simp [Entry.summons?, hk]

/-- A handler calls no handler of the pass that called it. -/
theorem calls_of_inside {depth : Nat} {target : Target} {deeds : List Entry}
    (h : ∀ e ∈ deeds, e.Inside depth target) : calls depth deeds = [] := by
  refine List.filterMap_eq_nil_iff.mpr fun e he => ?_
  rcases h e he with hb | ⟨sink, text, failure, -, rfl⟩
  · exact Entry.summons?_of_below hb
  · rfl

/-- A handler sends no notice in the name of the pass that called it. -/
theorem notices_of_inside {depth : Nat} {target : Target} {deeds : List Entry}
    (h : ∀ e ∈ deeds, e.Inside depth target) : notices depth deeds = [] := by
  refine List.filterMap_eq_nil_iff.mpr fun e he => ?_
  rcases h e he with hb | ⟨sink, text, failure, -, rfl⟩
  · exact Entry.message?_of_below hb
  · simp [Entry.message?]

@[simp] theorem World.deeds_append_log (w : World σ) (r : LogRecord) :
    World.deeds { w with trace := w.trace ++ [.log r] } = w.deeds := by
  simp [World.deeds, Entry.isDeed]

@[simp] theorem World.deeds_append_logs (w : World σ) (rs : List LogRecord) (r : Registry) :
    World.deeds { w with registry := r, trace := w.trace ++ rs.map Entry.log } = w.deeds := by
  simp [World.deeds, Entry.isDeed, List.filter_append]

theorem World.deeds_append_deed (w : World σ) {e : Entry} (h : e.isDeed = true) :
    World.deeds { w with trace := w.trace ++ [e] } = w.deeds ++ [e] := by
  simp [World.deeds, h]

/-! ### What a step may do to a world -/

/-- The registry and the deeds are as they were. -/
def Calm (u v : World σ) : Prop := v.registry = u.registry ∧ v.deeds = u.deeds

instance : IsPreorder (World σ) Calm where
  refl _ := ⟨rfl, rfl⟩
  trans _ _ _ h₁ h₂ := ⟨h₂.1.trans h₁.1, h₂.2.trans h₁.2⟩

/-- Deeds that all satisfy `P` have come about. -/
def Adds (P : Entry → Prop) (u v : World σ) : Prop :=
  ∃ added, v.deeds = u.deeds ++ added ∧ ∀ e ∈ added, P e

instance (P : Entry → Prop) : IsPreorder (World σ) (Adds P) where
  refl u := ⟨[], by simp, by simp⟩
  trans u v w := by
    rintro ⟨xs, hxs, hx⟩ ⟨ys, hys, hy⟩
    refine ⟨xs ++ ys, by rw [hys, hxs, List.append_assoc], fun e he => ?_⟩
    rcases List.mem_append.mp he with h | h
    · exact hx e h
    · exact hy e h

theorem Calm.adds {P : Entry → Prop} {u v : World σ} (h : Calm u v) : Adds P u v :=
  ⟨[], by rw [h.2, List.append_nil], by simp⟩

theorem Adds.mono {P Q : Entry → Prop} (hPQ : ∀ e, P e → Q e) {u v : World σ}
    (h : Adds P u v) : Adds Q u v := by
  obtain ⟨added, hv, hP⟩ := h
  exact ⟨added, hv, fun e he => hPQ e (hP e he)⟩

/-! ### The deeds of a step -/

/-- The deeds that a step adds. -/
def Step.deeds (x : Step σ α) (w : World σ) : List Entry :=
  (x.after w).deeds.drop w.deeds.length

/-- The deeds that a run adds. -/
def Run.deeds (x : Run σ α) (w : World σ) : List Entry :=
  (x.after w).deeds.drop w.deeds.length

theorem Step.deeds_eq {x : Step σ α} {w : World σ} {added : List Entry}
    (h : (x.after w).deeds = w.deeds ++ added) : x.deeds w = added := by
  rw [Step.deeds, h, List.drop_left]

theorem Run.deeds_eq {x : Run σ α} {w : World σ} {added : List Entry}
    (h : (x.after w).deeds = w.deeds ++ added) : x.deeds w = added := by
  rw [Run.deeds, h, List.drop_left]

theorem Step.Within.deeds_append {P : Entry → Prop} {x : Step σ α} (h : x.Within (Adds P))
    (w : World σ) : (x.after w).deeds = w.deeds ++ x.deeds w := by
  obtain ⟨added, ha, -⟩ := h w
  rw [Step.deeds_eq ha, ha]

/-! ### Steps that put things into words -/

/-- A setup keeps within a relation what it does to put a fault into words. -/
structure Setup.Minds (s : Setup σ) (R : World σ → World σ → Prop) : Prop where
  log : ∀ event failure, (Step.log event failure : Step σ Unit).Within R
  marker : s.marker.Within R
  bold : ∀ text, (s.bold text).Within R

namespace Setup.Minds

variable {s : Setup σ} {R : World σ → World σ → Prop} [IsPreorder (World σ) R]

theorem usage (h : s.Minds R) (c : Command) : (s.usage c).Within R := by
  unfold Setup.usage
  split
  · exact .bind h.marker fun _ => .bind Step.get_within fun _ => .pure _
  · exact .bind (.pure _) fun _ => .bind Step.get_within fun _ => .pure _

theorem manualHint (h : s.Minds R) (c : Command) : (s.manualHint c).Within R :=
  .bind h.marker.lift fun _ => .bind (h.bold _) fun _ => .pure _

theorem verdictFault (h : s.Minds R) (id : CommandId) (c : Command) (w : Walk) :
    (s.verdictFault id c w).Within R := by
  have leftover : (logLeftover c w : Step σ Unit).Within R :=
    .bind (h.log _ _) fun _ => .bind (h.log _ _) fun _ => .bind (h.log _ _) fun _ => h.log _ _
  unfold Setup.verdictFault
  split
  · exact .pure _
  · refine .bind ?_ fun _ => .pure _
    exact .bind (h.bold _) fun _ => .bind (h.bold _) fun _ => .bind (h.manualHint c) fun _ =>
      .pure _
  · refine .bind leftover.lift fun _ => .bind ?_ fun _ => .pure _
    exact .bind (h.bold _) fun _ => .pure _
  · refine .bind leftover.lift fun _ => .bind ?_ fun _ => .pure _
    exact .bind (h.usage c).lift fun _ => .pure _

/-- An evaluation does nothing but put into words what the registry and the text decide. -/
theorem evaluate (h : s.Minds R) (id : CommandId) (text : List Char) :
    (s.evaluate id text).Within R := by
  refine .bind Run.get_within fun w => ?_
  dsimp only
  split
  · exact .throw _
  · split
    · exact .throw _
    · exact .bind (h.verdictFault id _ _) fun _ => .pure _

theorem usageFault (h : s.Minds R) (id : CommandId) (c : Command) :
    (s.usageFault id c).Within R :=
  .bind (h.manualHint c) fun _ => .pure _

theorem split? (h : s.Minds R) (text : Value) : (s.split? text).Within R := by
  unfold Setup.split?
  split
  · exact .bind h.marker fun _ => .pure _
  · exact .pure _

theorem helpHint (h : s.Minds R) (marker : String) : (s.helpHint marker).Within R :=
  .bind (h.bold _) fun _ => .pure _

theorem unknownFault (h : s.Minds R) (marker word : String) :
    (s.unknownFault marker word).Within R :=
  .bind (h.bold _) fun _ => .bind (h.helpHint _) fun _ => .pure _

theorem deniedFault (h : s.Minds R) (marker word : String) :
    (s.deniedFault marker word).Within R :=
  .bind (h.bold _) fun _ => .bind (h.helpHint _) fun _ => .pure _

/-- The turn of a command keeps within what settling it keeps within. -/
theorem attend (h : s.Minds R) {depth : Nat} {dispatch : Event → Run σ (List Outcome)}
    {event : Event} {text : List Char} {id : CommandId}
    (hsettle : (s.settle depth dispatch event text id).Within R) :
    (s.attend depth dispatch event text id).Within R := by
  refine .bind hsettle.run fun answer => ?_
  cases answer with
  | ok o => exact .pure _
  | error e =>
      exact .bind (.bind Step.get_within fun _ => .pure _) fun _ => .bind (h.log _ _) fun _ =>
        .pure _

section

variable (h : s.Minds R)
  (hsend : ∀ depth origin sink text, (s.send depth origin sink text).Within R)

include h hsend

theorem notify (depth : Nat) (client : Client) (fault : Fault) :
    (s.notify depth client fault).Within R := by
  refine .bind (h.log _ _) fun _ => .bind (hsend _ _ _ _).run fun taken => ?_
  cases taken with
  | ok _ => exact .pure _
  | error e => exact .bind (h.log _ _) fun _ => .pure _

theorem report (depth : Nat) (event : Event) (outcome : Outcome) (fault : Fault) :
    (s.report depth event outcome fault).Within R :=
  .bind (h.notify hsend _ _ _) fun _ => .pure _

theorem failed (depth : Nat) (event : Event) (id : CommandId) (c : Command) (record : Record)
    (e : Failure) : (s.failed depth event id c record e).Within R :=
  .bind (h.log _ _) fun _ => .bind (h.log _ _) fun _ => .bind (h.notify hsend _ _ _) fun _ =>
    .pure _

end

end Setup.Minds

/-! ### Steps that ask the host -/

/-- Whatever is asked of the host and whatever is logged keeps within a relation. -/
structure Heeds (R : World σ → World σ → Prop) : Prop where
  log : ∀ event failure, (Step.log event failure : Step σ Unit).Within R
  ask : ∀ {α : Type} (question : σ → Except Failure α × σ), (Run.ask question).Within R

namespace Heeds

variable {R : World σ → World σ → Prop} [IsPreorder (World σ) R] (h : Heeds R) (s : Setup σ)

include h

theorem marker : s.marker.Within R := by
  unfold Setup.marker
  split
  · exact .pure _
  · exact .pure _
  · exact .pure _
  · refine .bind (h.ask _).run fun answer => ?_
    cases answer with
    | ok v => exact .pure _
    | error e => exact .bind (h.log _ _) fun _ => .pure _

theorem bold (text : String) : (s.bold text).Within R := by
  refine .bind ?_ fun _ => .pure _
  unfold Setup.embolden
  split
  · exact .pure _
  · exact .pure _
  · exact h.ask _

theorem minds : s.Minds R := ⟨h.log, h.marker s, h.bold s⟩

theorem permits (c : Command) (client : Client) : (s.permits c client).Within R := by
  unfold Setup.permits
  split
  · exact .pure _
  · exact .pure _
  · exact .bind (h.ask _) fun _ => .pure _

theorem available (client : Client) (name : Value) : (s.available client name).Within R := by
  have permitted (ids : List CommandId) : (s.permitted client ids).Within R := by
    induction ids with
    | nil => exact .pure _
    | cons id ids ih =>
        refine .bind Run.get_within fun w => ?_
        cases w.registry.command? id with
        | none => exact ih
        | some c => exact .bind (h.permits s c client) fun _ => .bind ih fun _ => .pure _
  exact .bind Run.get_within fun _ => permitted _

theorem admits (client : Client) (id : CommandId) : (s.admits client id).Within R := by
  refine .bind Step.get_within fun w => ?_
  cases w.registry.command? id with
  | none => exact .pure _
  | some c =>
      refine .bind (h.permits s c client).run fun answer => ?_
      cases answer with
      | ok allowed => exact .pure _
      | error e => exact .bind (h.log _ _) fun _ => .pure _

/-- What a handler asks for keeps within what replies, operations and the passes inside of it keep
within. -/
theorem answer {scene : Setup.Scene σ} (record : Record) {request : Request σ}
    (hreply : ∀ text, request = .reply text →
      (s.reply scene.depth scene.event scene.target text).Within R)
    (hoperate : ∀ operation, request = .operate operation →
      (Run.operate operation : Run σ (Option Nat)).Within R)
    (hd : ∀ event, (scene.dispatch event).Within R) :
    (s.answer scene record request).Within R := by
  cases request with
  | reply text => exact hreply text rfl
  | embolden text => exact h.bold s text
  | marker => exact (h.marker s).lift
  | available name => exact h.available s _ name
  | registry | memory => exact .bind Run.get_within fun _ => .pure _
  | operate operation => exact hoperate operation rfl
  | record | put => exact .pure _
  | remember memory => exact fun w => h.ask (fun _ => (.ok (), memory)) w
  | dispatch text => exact hd _

end Heeds

/-! ### Calm steps -/

theorem Step.log_calm (event : LogEvent) (failure : Option Failure) :
    (Step.log event failure : Step σ Unit).Within Calm :=
  fun w => ⟨rfl, w.deeds_append_log _⟩

theorem Run.ask_calm (question : σ → Except Failure α × σ) :
    (Run.ask question).Within Calm :=
  fun _ => ⟨rfl, rfl⟩

theorem heeds_calm : Heeds (Calm (σ := σ)) := ⟨Step.log_calm, Run.ask_calm⟩

namespace Setup

variable (s : Setup σ)

theorem marker_calm : s.marker.Within Calm := heeds_calm.marker s

theorem bold_calm (text : String) : (s.bold text).Within Calm := heeds_calm.bold s text

theorem permits_calm (c : Command) (client : Client) : (s.permits c client).Within Calm :=
  heeds_calm.permits s c client

theorem minds_calm : s.Minds Calm := heeds_calm.minds s

/-- **Evaluating a text changes nothing**: what it asks of the host and logs apart. -/
theorem evaluate_calm (id : CommandId) (text : List Char) : (s.evaluate id text).Within Calm :=
  s.minds_calm.evaluate id text

theorem admits_calm (client : Client) (id : CommandId) : (s.admits client id).Within Calm :=
  heeds_calm.admits s client id

/-- Asking the predicates of commands keeps within what asking each of them keeps within. -/
theorem admitted_within {R : World σ → World σ → Prop} [IsPreorder (World σ) R] {client : Client}
    {ids : List CommandId} (h : ∀ id ∈ ids, (s.admits client id).Within R) :
    (s.admitted client ids).Within R := by
  induction ids with
  | nil => exact .pure _
  | cons id ids ih =>
      have hmore : (s.admitted client ids).Within R := ih fun i hi => h i (.tail _ hi)
      exact .bind (h id (.head _)) fun _ => .bind hmore fun _ => .pure _

/-- **Asking the predicates changes nothing.** -/
theorem admitted_calm (client : Client) (ids : List CommandId) :
    (s.admitted client ids).Within Calm :=
  s.admitted_within fun id _ => s.admits_calm client id

theorem split?_calm (text : Value) : (s.split? text).Within Calm := s.minds_calm.split? text

theorem unknownFault_calm (marker word : String) : (s.unknownFault marker word).Within Calm :=
  s.minds_calm.unknownFault marker word

theorem deniedFault_calm (marker word : String) : (s.deniedFault marker word).Within Calm :=
  s.minds_calm.deniedFault marker word

theorem usageFault_calm (id : CommandId) (c : Command) : (s.usageFault id c).Within Calm :=
  s.minds_calm.usageFault id c

/-! ### Sending -/

/-- A text handed to a sink is one deed, which tells whether the sink failed. -/
theorem deeds_send (depth : Nat) (origin : Origin) (sink : Sink) (text : String) (w : World σ) :
    ((s.send depth origin sink text).after w).deeds =
      w.deeds ++ [.sent depth origin sink text
        (match (s.send depth origin sink text).result w with
          | .ok _ => none
          | .error e => some e)] :=
  World.deeds_append_deed _ rfl

/-- **A notice is one text to the caller's private chat**, and the failure of the chat to take it is
the failure given back. -/
theorem deeds_notify (depth : Nat) (client : Client) (fault : Fault) (w : World σ) :
    ((s.notify depth client fault).after w).deeds =
      w.deeds ++ [.sent depth .notice (.caller client.name) fault.render
        ((s.notify depth client fault).result w)] := by
  simp only [notify, Step.after_bind, Step.result_bind, Step.after_log, Run.step_result_run,
    Run.step_after_run]
  have hsend := s.deeds_send depth .notice (.caller client.name) fault.render
    { w with trace := w.trace ++ [.log { event := fault.event s.codes, failure := none }] }
  rw [World.deeds_append_log] at hsend
  cases h : (s.send depth .notice (.caller client.name) fault.render).result
      { w with trace := w.trace ++ [.log { event := fault.event s.codes, failure := none }] } with
  | ok => rw [h] at hsend; exact hsend
  | error e =>
      rw [h] at hsend
      simp only [Step.after_bind, Step.after_log, Step.after_pure, Step.result_bind,
        Step.result_pure, World.deeds_append_log]
      exact hsend

/-- A reply keeps within what sending and logging keep within. -/
theorem reply_within {R : World σ → World σ → Prop} (h : s.Minds R)
    (hsend : ∀ depth origin sink text, (s.send depth origin sink text).Within R) (depth : Nat)
    (event : Event) (target : Target) (text : String) :
    (s.reply depth event target text).Within R := by
  rw [reply.eq_def]
  split
  · exact hsend _ _ _ _
  · exact (h.log _ _).lift

/-! ### Handlers -/

theorem operate_adds (P : Entry → Prop) (operation : Operation) :
    (Run.operate operation : Run σ (Option Nat)).Within (Adds P) := by
  intro w
  have hdeeds : ((Run.operate operation).after w).deeds = w.deeds := by
    rw [Run.after_operate]
    exact World.deeds_append_logs w _ _
  exact ⟨[], by rw [hdeeds, List.append_nil], by simp⟩

theorem reply_adds (depth : Nat) (event : Event) (target : Target) (text : String) :
    (s.reply depth event target text).Within (Adds (Entry.Inside depth target)) := by
  cases target with
  | sink sink =>
      exact fun w => ⟨_, s.deeds_send depth .reply sink text w, fun e he =>
        Or.inr ⟨sink, text, _, rfl, List.mem_singleton.mp he⟩⟩
  | nowhere => exact (Step.log_calm _ _).lift.mono fun _ _ => Calm.adds

theorem heeds_adds (P : Entry → Prop) : Heeds (Adds (σ := σ) P) where
  log event failure := (Step.log_calm event failure).mono fun _ _ => Calm.adds
  ask question := (Run.ask_calm question).mono fun _ _ => Calm.adds

/-- What a handler asks for, replies apart, adds what the passes inside of it do. -/
theorem answer_adds_below {scene : Scene σ}
    (hd : ∀ event, (scene.dispatch event).Within (Adds (Entry.Below scene.depth)))
    (record : Record) {request : Request σ} (hreply : ∀ text, request ≠ .reply text) :
    (s.answer scene record request).Within (Adds (Entry.Below scene.depth)) :=
  (heeds_adds _).answer s record (fun text h => absurd h (hreply text))
    (fun operation _ => operate_adds _ operation) hd

theorem answer_adds {scene : Scene σ}
    (hd : ∀ event, (scene.dispatch event).Within (Adds (Entry.Below scene.depth)))
    (record : Record) (request : Request σ) :
    (s.answer scene record request).Within (Adds (Entry.Inside scene.depth scene.target)) :=
  (heeds_adds _).answer s record (fun _ _ => s.reply_adds _ _ _ _)
    (fun operation _ => operate_adds _ operation)
    fun event => (hd event).mono fun _ _ => Adds.mono fun _ => Or.inl

/-- An act keeps within what the answers to its requests keep within. -/
theorem perform_within {R : World σ → World σ → Prop} [IsPreorder (World σ) R] {scene : Scene σ}
    (hanswer : ∀ record request, (s.answer scene record request).Within R) (act : Act σ α)
    (record : Record) : (s.perform scene act record).Within R := by
  induction act generalizing record with
  | done a => exact .pure _
  | fail e => exact .pure _
  | ask request next ih => exact .bind (hanswer record request).run fun answer => ih answer _

/-- **What a handler may do.**  It adds replies of its own depth to the target of the event, and
what the passes inside of it do. -/
theorem perform_adds {scene : Scene σ}
    (hd : ∀ event, (scene.dispatch event).Within (Adds (Entry.Below scene.depth)))
    (act : Act σ α) (record : Record) :
    (s.perform scene act record).Within (Adds (Entry.Inside scene.depth scene.target)) :=
  s.perform_within (s.answer_adds hd) act record

/-- A call of a handler is the deed of calling it, and then what the handler does. -/
theorem deeds_call (scene : Scene σ)
    (hd : ∀ event, (scene.dispatch event).Within (Adds (Entry.Below scene.depth)))
    (id : CommandId) (c : Command) (record : Record) (w : World σ) :
    ∃ inner, ((s.call scene id c record).after w).deeds =
        w.deeds ++ .called scene.depth id c.handler
          { client := scene.event.client, text := scene.event.text, record } :: inner ∧
      ∀ e ∈ inner, e.Inside scene.depth scene.target := by
  obtain ⟨inner, hdeeds, hinner⟩ := s.perform_adds hd (s.act c.handler
    { client := scene.event.client, text := scene.event.text, record }) record
    (Step.after (Step.note (.called scene.depth id c.handler
      { client := scene.event.client, text := scene.event.text, record })) w)
  refine ⟨inner, ?_, hinner⟩
  rw [Step.after_note, World.deeds_append_deed w rfl, List.append_assoc] at hdeeds
  exact hdeeds

end Setup

end Switchboard
