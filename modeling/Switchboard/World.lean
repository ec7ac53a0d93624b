import Switchboard.Host

/-!
# World

A switchboard at work.  The world holds the registry, the memory of the host, and a trace of
everything that was logged, sent or called, in order.  A run changes the world and may fail; what it
changed before it failed stays changed.  The steps here are the only ones that touch the host.
-/

namespace Switchboard

/-- Who sends a text. -/
inductive Origin where
  /-- The switchboard itself, to tell a caller about a fault. -/
  | notice
  /-- A handler. -/
  | reply
  deriving DecidableEq

/-- What the trace tells.  Texts and calls are marked by the depth of the pass that they belong to:
the number of lines that may still be dispatched inside of it. -/
inductive Entry where
  | log (record : LogRecord)
  /-- A text was handed to a sink, which may have failed to take it. -/
  | sent (depth : Nat) (origin : Origin) (sink : Sink) (text : String) (failure : Option Failure)
  | called (depth : Nat) (command : CommandId) (handler : Handler) (call : Call)

/-- A switchboard at work. -/
structure World (σ : Type) where
  registry : Registry := {}
  memory : σ
  trace : List Entry := []

/-- A step that changes the world and does not fail. -/
abbrev Step (σ : Type) := StateM (World σ)

/-- A step that changes the world and may fail. -/
abbrev Run (σ : Type) := ExceptT Failure (StateM (World σ))

/-- Adds to the trace. -/
def Step.note {σ : Type} (entry : Entry) : Step σ Unit :=
  modify fun w => { w with trace := w.trace ++ [entry] }

/-- Logs an event. -/
def Step.log {σ : Type} (event : LogEvent) (failure : Option Failure := none) : Step σ Unit :=
  Step.note (.log { event, failure })

/-- Does an operation on the registry and logs what there is to log about it. -/
def Run.operate {σ : Type} (operation : Operation) : Run σ (Option Nat) := do
  let w ← get
  let applied := w.registry.apply operation
  set { w with
    registry := applied.registry
    trace := w.trace ++ applied.logs.map Entry.log }
  liftExcept applied.result
where
  /-- Fails if the result is a failure. -/
  liftExcept {α : Type} : Except Failure α → Run σ α
    | .ok a => pure a
    | .error e => throw e

/-- Asks the host. -/
def Run.ask {σ α : Type} (question : σ → Except Failure α × σ) : Run σ α :=
  ExceptT.mk do
    let w ← get
    let (answer, memory) := question w.memory
    set { w with memory }
    return answer

namespace Setup

variable {σ : Type} (s : Setup σ)

/-- The marker that an accessor's value gives: the value if it is a text that is not empty. -/
def markerText : Value → String
  | .text t => if t.isEmpty then defaultMarker else t
  | _ => defaultMarker

/-- Reads the marker of command lines.  An accessor that raises is logged, and the default marker
stands in. -/
def marker : Step σ String :=
  match s.config.marker with
  | .unset => return defaultMarker
  | .fixed t => return markerText (.text t)
  | .asked (.constant v) => return markerText v
  | .asked (.host id) => do
    match ← (Run.ask (s.host.readMarker id)).run with
    | .ok v => return markerText v
    | .error e =>
      Step.log .accessorFailed (some e)
      return defaultMarker

/-- What the formatter makes of a text. -/
def embolden (text : String) : Run σ Value :=
  match s.config.bold with
  | none => return .text text
  | some (.constant v) => return v
  | some (.host id) => Run.ask (s.host.embolden id text)

/-- A text as it is emphasised inside a sentence. -/
def bold (text : String) : Run σ String := do
  return (← s.embolden text).display

/-- Whether a client may use a command; without a predicate everybody may. -/
def permits (c : Command) (client : Client) : Run σ Bool :=
  match c.permission with
  | none => return true
  | some (.constant v) => return v.isTrue
  | some (.host id) => do
    return (← Run.ask (s.host.permits id client)).isTrue

/-- The commands among some that a client may use, in order. -/
def permitted (client : Client) : List CommandId → Run σ (List CommandId)
  | [] => return []
  | id :: ids => do
    match (← get).registry.command? id with
    | none => permitted client ids
    | some c => do
      let allowed ← s.permits c client
      let more ← permitted client ids
      return if allowed then id :: more else more

/-- The listed and enabled commands of a name that a client may use, in order; the unset value is
every name. -/
def available (client : Client) (name : Value) : Run σ (List CommandId) := do
  let named (c : Command) : Bool :=
    match name with
    | .unset => true
    | name => name.isText c.name
  s.permitted client ((← get).registry.listedWhere fun c => named c && c.enabled)

/-- Hands a text to a sink. -/
def send (depth : Nat) (origin : Origin) (sink : Sink) (text : String) : Run σ Unit :=
  ExceptT.mk do
    let taken ← (Run.ask (s.host.deliver sink text)).run
    let failure := match taken with
      | .ok _ => none
      | .error e => some e
    Step.note (.sent depth origin sink text failure)
    return taken

/-- Tells a caller about a fault, in one line to the private chat.  A caller who cannot be told is
logged and given back as the failure, and interrupts nothing. -/
def notify (depth : Nat) (client : Client) (fault : Fault) : Step σ (Option Failure) := do
  Step.log (fault.event s.codes)
  match ← (s.send depth .notice (.caller client.name) fault.render).run with
  | .ok _ => return none
  | .error e =>
    Step.log (.undelivered fault.kind) (some e)
    return some e

/-- The usage line of a command.  A command that belongs to no registry shows the default marker. -/
def usage (c : Command) : Step σ String := do
  let marker ← if c.isAttached then s.marker else pure defaultMarker
  return (← get).registry.usage marker c

end Setup

end Switchboard
