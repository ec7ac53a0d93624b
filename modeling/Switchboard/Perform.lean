import Switchboard.Handbook
import Switchboard.World

/-!
# Perform

Doing what a handler asks for.  Replies go to the sink of the event's mode, and to nowhere if the
mode has none.  The values resolved for the line are handed from request to request, so a handler
that changes them changes what comes of the line.  What the handler does about a failed request is
its own affair.
-/

namespace Switchboard

/-- Where the replies to an event go. -/
inductive Target where
  | sink (sink : Sink)
  /-- Nowhere, which is logged. -/
  | nowhere

namespace Setup

variable {σ : Type} (s : Setup σ)

/-- Where the replies to an event go: to the caller, to the caller's first channel, or to the whole
server if there is a chat for it. -/
def target (event : Event) : Except Failure Target :=
  match event.mode.mode? with
  | some .caller => .ok (.sink (.caller event.client.name))
  | some .channel =>
      if event.client.channels = 0 then .error .noChannel
      else .ok (.sink (.channel event.client.name 0))
  | some .server => if s.backend then .ok (.sink .backend) else .ok .nowhere
  | none => .ok .nowhere

/-- Replies to an event. -/
def reply (depth : Nat) (event : Event) (target : Target) (text : String) : Run σ Unit :=
  match target with
  | .sink sink => s.send depth .reply sink text
  | .nowhere => (Step.log (.discarded event.mode.literal text) : Step σ Unit)

/-- The circumstances in which a handler is called: the event, where replies go, how deep the pass
is, and how a line is dispatched inside of it. -/
structure Scene (σ : Type) where
  event : Event
  target : Target
  depth : Nat
  dispatch : Event → Run σ (List Outcome)

/-- Answers a request that has nothing to do with the record. -/
def answer (scene : Scene σ) (record : Record) : (r : Request σ) → Run σ r.Answer
  | .reply text => s.reply scene.depth scene.event scene.target text
  | .embolden text => s.bold text
  | .marker => (s.marker : Step σ String)
  | .available name => s.available scene.event.client name
  | .registry => return (← get).registry
  | .operate operation => Run.operate operation
  | .record => return record
  | .put .. => return ()
  | .memory => return (← get).memory
  | .remember memory => modify fun w => { w with memory }
  | .dispatch text => scene.dispatch { scene.event with text, isSelf := false }

/-- The record after a request. -/
def recordAfter (record : Record) : Request σ → Record
  | .put name value => record.put name value
  | _ => record

/-- Performs an act; the record as the act leaves it comes with the result. -/
def perform {α : Type} (scene : Scene σ) :
    Act σ α → Record → Step σ (Except Failure α × Record)
  | .done a, record => return (.ok a, record)
  | .fail e, record => return (.error e, record)
  | .ask request next, record => do
    let answer ← (s.answer scene record request).run
    perform scene (next answer) (recordAfter record request)

/-- What a handler does about a call. -/
def act (handler : Handler) (call : Call) : Act σ Value :=
  match handler with
  | .idle => .done .null
  | .help => Handbook.help
  | .man => Handbook.man
  | .callback (.constant v) => .done v
  | .callback (.host id) => s.host.handle id call

/-- Calls the handler of a command. -/
def call (scene : Scene σ) (id : CommandId) (c : Command) (record : Record) :
    Step σ (Except Failure Value × Record) := do
  let call : Call := { client := scene.event.client, text := scene.event.text, record }
  Step.note (.called scene.depth id c.handler call)
  s.perform scene (s.act c.handler call) record

end Setup

end Switchboard
