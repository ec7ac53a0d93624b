import Mathlib.Logic.Relation
import Switchboard.Proofs.Pass

/-!
# Proofs — Session

What a host does with a switchboard, one errand after another, and what can be said of all of it at
once.  Whatever is done, by the host or by a handler, comes down to a few moves.  What every move
keeps is kept by every act, pass and session, and at every moment in the middle of one.

* `Errand`, `errands`: what a host can ask of a switchboard, and a session of errands.
* `Setup.Abides`: what it takes for all passes to keep within a relation.
* `Move`, `Leads`: the elementary moves, and the worlds that they lead to.
* `perform_leads`, `attend_leads`, `dispatchWithin_leads`, `errands_leads`: acts, turns, passes and
  sessions are made of moves.
* `madeOfMoves`: so is whatever is still to come, at any moment.
-/

namespace Switchboard

variable {σ α : Type}

/-! ### Errands -/

/-- What a host can ask of a switchboard. -/
inductive Errand (σ : Type) where
  | operate (operation : Operation)
  /-- Adds `help` and `man`. -/
  | install
  | dispatch (event : Event)
  /-- Takes a line apart. -/
  | split (text : Value)
  /-- Asks whether a text lets a command run. -/
  | evaluate (command : CommandId) (text : List Char)
  /-- Asks for the commands of a name that a client may use. -/
  | available (client : Client) (name : Value)
  /-- Calls the handler of a command directly. -/
  | call (command : CommandId) (event : Event) (record : Record)
  /-- The memory of the host changes by itself. -/
  | remember (memory : σ)

/-- An errand asks for something, and changes nothing by itself. -/
def Errand.Asks : Errand σ → Prop
  | .dispatch _ | .split _ | .evaluate .. | .available .. | .call .. => True
  | .operate _ | .install | .remember _ => False

/-- Adds the commands of the handbook. -/
def Step.install : Step σ Unit :=
  modify fun w =>
    let installed := Handbook.install w.registry
    { w with registry := installed.1, trace := w.trace ++ installed.2.map Entry.log }

namespace Setup

variable (s : Setup σ)

/-- Runs an errand; what comes of it is left to the host. -/
def errand : Errand σ → Step σ Unit
  | .operate operation => do let _ ← (Run.operate operation).run
  | .install => Step.install
  | .dispatch event => do let _ ← (s.dispatch event).run
  | .split text => do let _ ← s.split? text
  | .evaluate id text => do let _ ← (s.evaluate id text).run
  | .available client name => do let _ ← (s.available client name).run
  | .call id event record => do let _ ← (s.callDirectly id event record).run
  | .remember memory => modify fun w => { w with memory }

/-- Runs errands in a row. -/
def errands : List (Errand σ) → Step σ Unit
  | [] => pure ()
  | e :: es => do
    s.errand e
    errands es

@[simp] theorem after_errands_nil (w : World σ) : (s.errands []).after w = w := rfl

@[simp] theorem after_errands_cons (e : Errand σ) (es : List (Errand σ)) (w : World σ) :
    (s.errands (e :: es)).after w = (s.errands es).after ((s.errand e).after w) := rfl

/-- A session keeps within what each of its errands keeps within. -/
theorem errands_within {R : World σ → World σ → Prop} [IsPreorder (World σ) R]
    {es : List (Errand σ)} (h : ∀ e ∈ es, (s.errand e).Within R) : (s.errands es).Within R := by
  induction es with
  | nil => exact .pure _
  | cons e es ih =>
      exact .bind (h e (.head _)) fun _ => ih fun later hlater => h later (.tail _ hlater)

end Setup

/-! ### What passes keep within -/

/-- **What it takes for passes to keep within a relation**: what they are made of keeps within it.
A call of a handler has to do so only where its command is there and was not destroyed, and only if
the passes inside of it do. -/
structure Setup.Abides (s : Setup σ) (R : World σ → World σ → Prop) : Prop where
  minds : s.Minds R
  send : ∀ depth origin sink text, (s.send depth origin sink text).Within R
  admits : ∀ client id, (s.admits client id).Within R
  call : ∀ {dispatch : Event → Run σ (List Outcome)}, (∀ event, (dispatch event).Within R) →
    ∀ {w : World σ} {id : CommandId} {c : Command}, w.registry.command? id = some c →
      c.isDestroyed = false → ∀ event target depth record,
        R w ((s.call { event, target, depth, dispatch } id c record).after w)

namespace Setup.Abides

variable {s : Setup σ} {R : World σ → World σ → Prop} [IsPreorder (World σ) R] (h : s.Abides R)

include h

theorem report (depth : Nat) (event : Event) (outcome : Outcome) (fault : Fault) :
    (s.report depth event outcome fault).Within R :=
  h.minds.report h.send depth event outcome fault

theorem failed (depth : Nat) (event : Event) (id : CommandId) (c : Command) (record : Record)
    (e : Failure) : (s.failed depth event id c record e).Within R :=
  h.minds.failed h.send depth event id c record e

section

variable {dispatch : Event → Run σ (List Outcome)} (hd : ∀ event, (dispatch event).Within R)

include hd

theorem invoke {w : World σ} {id : CommandId} {c : Command}
    (hc : w.registry.command? id = some c) (halive : c.isDestroyed = false) (depth : Nat)
    (event : Event) (record : Record) :
    R w ((s.invoke depth dispatch event id c record).after w) := by
  unfold Setup.invoke
  split
  · exact h.failed _ _ _ _ _ _ w
  · rename_i target _
    refine Step.after_bind_of (h.call hd hc halive event target depth record)
      fun (result, record) => ?_
    cases result with
    | error e => exact h.failed _ _ _ _ _ _
    | ok v => exact .bind (h.minds.log _ _) fun _ => .pure _

theorem settle (depth : Nat) (event : Event) (text : List Char) (id : CommandId) :
    (s.settle depth dispatch event text id).Within R := by
  refine .bind (h.minds.evaluate id text) fun o => ?_
  cases o.fault with
  | some f => exact (h.report _ _ _ _).lift
  | none =>
      refine .get_bind fun w => ?_
      cases hc : w.registry.command? id with
      | none => exact refl _
      | some c =>
          cases halive : c.isDestroyed with
          | true =>
              simp only [halive, if_true]
              exact Run.Within.bind (h.minds.usageFault id c)
                (fun f => (h.report depth event o f).lift) w
          | false =>
              simp only [halive, Bool.false_eq_true, if_false]
              exact h.invoke hd hc halive depth event o.record

theorem attend (depth : Nat) (event : Event) (text : List Char) (id : CommandId) :
    (s.attend depth dispatch event text id).Within R :=
  h.minds.attend (h.settle hd depth event text id)

theorem settleAll (depth : Nat) (event : Event) (text : List Char) (ids : List CommandId) :
    (s.settleAll depth dispatch event text ids).Within R := by
  induction ids with
  | nil => exact .pure _
  | cons id ids ih =>
      exact .bind (h.attend hd depth event text id) fun _ => .bind ih fun _ => .pure _

theorem route (depth : Nat) (event : Event) (marker word : String) (text : List Char) :
    (s.route depth dispatch event marker word text).Within R := by
  refine .bind Run.get_within fun w => ?_
  split
  · split
    · exact .bind (h.minds.unknownFault _ _) fun _ => .bind (h.report _ _ _ _).lift fun _ =>
        .pure _
    · exact .bind (h.minds.log _ _).lift fun _ => .pure _
  · refine .bind (s.admitted_within fun id _ => h.admits event.client id).lift fun admitted => ?_
    split
    · exact .bind (h.minds.deniedFault _ _) fun _ => .bind (h.report _ _ _ _).lift fun _ =>
        .pure _
    · exact (h.settleAll hd _ _ _ _).lift

theorem pass (depth : Nat) (event : Event) : (s.pass depth dispatch event).Within R := by
  unfold Setup.pass
  split
  · exact .pure _
  · refine .bind (h.minds.split? event.text).lift fun line => ?_
    split
    · exact .pure _
    · exact .bind h.minds.marker.lift fun _ => h.route hd _ _ _ _ _

end

/-- **A pass keeps within what it is made of**, whatever lines are dispatched inside of it. -/
theorem dispatchWithin (depth : Nat) (event : Event) :
    (s.dispatchWithin depth event).Within R := by
  -- The depth bounds how often lines are dispatched inside of each other.
  induction depth generalizing event with
  | zero => exact h.pass (fun _ => .throw _) 0 event
  | succ depth ih => exact h.pass ih (depth + 1) event

theorem callDirectly (id : CommandId) (event : Event) (record : Record) :
    (s.callDirectly id event record).Within R := by
  refine .get_bind fun w => ?_
  cases hc : w.registry.command? id with
  | none => exact refl _
  | some c =>
      cases s.target event with
      | error e => exact refl _
      | ok target =>
          cases halive : c.isDestroyed with
          | true =>
              simp only [halive, if_true]
              exact refl _
          | false =>
              simp only [halive, Bool.false_eq_true, if_false]
              rw [Run.after_bind_ok (Run.result_lift _ w), Run.after_lift]
              refine IsTrans.trans _ _ _ (h.call (h.dispatchWithin nestingLimit) hc halive event
                target nestingLimit record) ?_
              split
              · exact refl _
              · exact refl _

/-- What a host asks for keeps within what passes keep within. -/
theorem errand (havailable : ∀ client name, (s.available client name).Within R) {e : Errand σ}
    (he : e.Asks) : (s.errand e).Within R := by
  cases e with
  | dispatch event => exact .bind (h.dispatchWithin _ event).run fun _ => .pure _
  | split text => exact .bind (h.minds.split? text) fun _ => .pure _
  | evaluate id text => exact .bind (h.minds.evaluate id text).run fun _ => .pure _
  | available client name => exact .bind (havailable client name).run fun _ => .pure _
  | call id event record => exact .bind (h.callDirectly id event record).run fun _ => .pure _
  | operate | install | remember => exact he.elim

end Setup.Abides

/-! ### Moves -/

/-- The elementary moves of a switchboard.  A handler is called only if its command is there and was
not destroyed. -/
inductive Move : World σ → World σ → Prop where
  | log (w : World σ) (record : LogRecord) : Move w { w with trace := w.trace ++ [.log record] }
  /-- The memory of the host changes, by a question or by itself. -/
  | remember (w : World σ) (memory : σ) : Move w { w with memory }
  | sent (w : World σ) (depth : Nat) (origin : Origin) (sink : Sink) (text : String)
      (failure : Option Failure) :
      Move w { w with trace := w.trace ++ [.sent depth origin sink text failure] }
  | called {w : World σ} {id : CommandId} {c : Command} (hc : w.registry.command? id = some c)
      (halive : c.isDestroyed = false) (depth : Nat) (call : Call) :
      Move w { w with trace := w.trace ++ [.called depth id c.handler call] }
  | operate (w : World σ) (operation : Operation) : Move w ((Run.operate operation).after w)
  | install (w : World σ) : Move w (Step.install.after w)

/-- Moves lead from one world to another. -/
abbrev Leads : World σ → World σ → Prop := Relation.ReflTransGen Move

theorem Step.log_leads (event : LogEvent) (failure : Option Failure) :
    (Step.log event failure : Step σ Unit).Within Leads :=
  fun w => .single (.log w _)

theorem Run.ask_leads (question : σ → Except Failure α × σ) : (Run.ask question).Within Leads :=
  fun w => .single (.remember w _)

theorem heeds_leads : Heeds (Leads (σ := σ)) := ⟨Step.log_leads, Run.ask_leads⟩

theorem Run.operate_leads (operation : Operation) :
    (Run.operate operation : Run σ (Option Nat)).Within Leads :=
  fun w => .single (.operate w operation)

theorem Step.install_leads : (Step.install : Step σ Unit).Within Leads :=
  fun w => .single (.install w)

namespace Setup

variable {s : Setup σ}

theorem minds_leads : s.Minds Leads := heeds_leads.minds s

/-! ### What is sent -/

theorem send_leads (depth : Nat) (origin : Origin) (sink : Sink) (text : String) :
    (s.send depth origin sink text).Within Leads :=
  Step.Within.bind (Run.ask_leads _).run fun _ =>
    .bind (fun w => .single (.sent w _ _ _ _ _)) fun _ => .pure _

/-! ### Acts and calls -/

theorem answer_leads {scene : Scene σ} (hd : ∀ event, (scene.dispatch event).Within Leads)
    (record : Record) (request : Request σ) : (s.answer scene record request).Within Leads :=
  heeds_leads.answer s record (fun _ _ => s.reply_within minds_leads send_leads _ _ _ _)
    (fun operation _ => Run.operate_leads operation) hd

/-- **An act is made of moves**, if the passes inside of it are. -/
theorem perform_leads {scene : Scene σ} (hd : ∀ event, (scene.dispatch event).Within Leads)
    (act : Act σ α) (record : Record) : (s.perform scene act record).Within Leads :=
  s.perform_within (answer_leads hd) act record

/-- A call is made of moves where the command is there and was not destroyed. -/
theorem call_leads {dispatch : Event → Run σ (List Outcome)}
    (hd : ∀ event, (dispatch event).Within Leads) {w : World σ} {id : CommandId} {c : Command}
    (hc : w.registry.command? id = some c) (halive : c.isDestroyed = false) (event : Event)
    (target : Target) (depth : Nat) (record : Record) :
    Leads w ((s.call { event, target, depth, dispatch } id c record).after w) :=
  .head (.called hc halive depth _) (perform_leads hd _ record _)

/-- Passes are made of moves. -/
theorem abides_leads : s.Abides Leads := ⟨minds_leads, send_leads, heeds_leads.admits s, call_leads⟩

/-! ### Turns and passes -/

/-- **A turn is made of moves**, if the passes inside of it are. -/
theorem attend_leads {dispatch : Event → Run σ (List Outcome)}
    (hd : ∀ event, (dispatch event).Within Leads) (depth : Nat) (event : Event) (text : List Char)
    (id : CommandId) : (s.attend depth dispatch event text id).Within Leads :=
  abides_leads.attend hd depth event text id

/-- **A pass is made of moves**, whatever handlers do. -/
theorem dispatchWithin_leads (depth : Nat) (event : Event) :
    (s.dispatchWithin depth event).Within Leads :=
  abides_leads.dispatchWithin depth event

theorem below_leads (depth : Nat) (event : Event) : (s.below depth event).Within Leads := by
  cases depth with
  | zero => exact .throw _
  | succ depth => exact dispatchWithin_leads depth event

/-! ### Sessions -/

theorem errand_leads (e : Errand σ) : (s.errand e).Within Leads := by
  cases e with
  | operate operation => exact .bind (Run.operate_leads operation).run fun _ => .pure _
  | install => exact Step.install_leads
  | remember memory => exact fun w => .single (.remember w memory)
  | dispatch | split | evaluate | available | call =>
      exact abides_leads.errand (heeds_leads.available s) trivial

/-- **A session is made of moves**, whatever the host and its handlers do. -/
theorem errands_leads (es : List (Errand σ)) : (s.errands es).Within Leads :=
  s.errands_within fun e _ => errand_leads e

/-- Whatever is still to come is made of moves: the rest of a handler, the turns that are left in a
pass, and further errands. -/
structure MadeOfMoves (s : Setup σ) : Prop where
  act : ∀ event target depth (act : Act σ Value) record,
    (s.perform { event, target, depth, dispatch := s.below depth } act record).Within Leads
  turns : ∀ depth event text ids,
    (s.settleAll depth (s.below depth) event text ids).Within Leads
  session : ∀ es, (s.errands es).Within Leads

/-- **Everything that a switchboard does is made of moves.** -/
theorem madeOfMoves (s : Setup σ) : s.MadeOfMoves where
  act _ _ depth act record := perform_leads (below_leads depth) act record
  turns depth event text ids := abides_leads.settleAll (below_leads depth) depth event text ids
  session := errands_leads

end Setup

end Switchboard
