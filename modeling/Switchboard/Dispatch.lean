import Switchboard.Evaluate
import Switchboard.Line
import Switchboard.Perform

/-!
# Dispatch

From a line to the handlers that it is for.  The commands that are enabled, answer to the word of
the line and are permitted to the caller are gone through in order.  Each one is evaluated by
itself, and then either its fault is told to the caller, or its handler is called, or, if an earlier
handler destroyed it, the caller is told so.  Whatever goes wrong with one command stays with it.
If no command comes up, the caller gets a single notice.
-/

namespace Switchboard.Setup

variable {σ : Type} (s : Setup σ)

/-- The name of a command, for the log. -/
def nameOf (id : CommandId) : Step σ String := do
  return (((← get).registry.command? id).map (·.name)).getD ""

/-- Whether a client may use a command.  A predicate that raises is logged and denies. -/
def admits (client : Client) (id : CommandId) : Step σ Bool := do
  match (← get).registry.command? id with
  | none => return false
  | some c =>
    match ← (s.permits c client).run with
    | .ok allowed => return allowed
    | .error e =>
      Step.log (.predicateFailed c.name) (some e)
      return false

/-- The commands that a client may use, in order. -/
def admitted (client : Client) : List CommandId → Step σ (List CommandId)
  | [] => return []
  | id :: ids => do
    let allowed ← s.admits client id
    let more ← admitted client ids
    return if allowed then id :: more else more

/-- The fault of a handler that failed. -/
def handlerFault (id : CommandId) : Fault where
  kind := .handler
  message := "An error happened while processing the command :("
  options := { command := some id }

/-- What comes of a handler that failed, or that could not be called. -/
def failed (depth : Nat) (event : Event) (id : CommandId) (c : Command) (record : Record)
    (failure : Failure) : Step σ Outcome := do
  Step.log (.failed c.name)
  Step.log (.handlerFailed c.name) (some failure)
  let fault := handlerFault id
  let error ← s.notify depth event.client fault
  return { command := some id, record, invoked := true, fault := some fault, timed := true, error }

/-- Calls the handler of a command. -/
def invoke (depth : Nat) (dispatch : Event → Run σ (List Outcome)) (event : Event)
    (id : CommandId) (c : Command) (record : Record) : Step σ Outcome :=
  match s.target event with
  | .error e => s.failed depth event id c record e
  | .ok target => do
    let (result, record) ← s.call { event, target, depth, dispatch } id c record
    match result with
    | .error e => s.failed depth event id c record e
    | .ok _ =>
      Step.log (.finished c.name)
      return { command := some id, record, invoked := true, timed := true }

/-- Tells the caller about the fault of an outcome. -/
def report (depth : Nat) (event : Event) (outcome : Outcome) (fault : Fault) :
    Step σ Outcome := do
  let error ← s.notify depth event.client fault
  return { outcome with fault := some fault, error }

/-- The fault of a command that is of no use any more. -/
def usageFault (id : CommandId) (c : Command) : Run σ Fault := do
  let hint ← s.manualHint c
  return {
    kind := .invalidUsage
    message := "Invalid Command usage!"
    options := { hint := some (.text hint), command := some id } }

/-- Settles one command that a line is for. -/
def settle (depth : Nat) (dispatch : Event → Run σ (List Outcome)) (event : Event)
    (text : List Char) (id : CommandId) : Run σ Outcome := do
  let outcome ← s.evaluate id text
  match outcome.fault with
  | some fault => s.report depth event outcome fault
  | none =>
    match (← get).registry.command? id with
    | none => throw (.command .unknown)
    | some c =>
      if c.isDestroyed then do
        let fault ← s.usageFault id c
        s.report depth event outcome fault
      else s.invoke depth dispatch event id c outcome.record

/-- Settles one command that a line is for, whatever comes of it: a failure to settle it becomes its
outcome. -/
def attend (depth : Nat) (dispatch : Event → Run σ (List Outcome)) (event : Event)
    (text : List Char) (id : CommandId) : Step σ Outcome := do
  match ← (s.settle depth dispatch event text id).run with
  | .ok outcome => return outcome
  | .error e =>
    Step.log (.unprocessed (← nameOf id)) (some e)
    return { command := some id, error := some e }

/-- Settles the commands that a line is for, one after the other. -/
def settleAll (depth : Nat) (dispatch : Event → Run σ (List Outcome)) (event : Event)
    (text : List Char) : List CommandId → Step σ (List Outcome)
  | [] => return []
  | id :: ids => do
    let outcome ← s.attend depth dispatch event text id
    let more ← settleAll depth dispatch event text ids
    return outcome :: more

/-- The hint that leads to the list of commands. -/
def helpHint (marker : String) : Run σ String := do
  return "check " ++ (← s.bold (marker ++ "help")) ++ " to get a list of available commands!"

/-- The fault of a word that no enabled command answers to. -/
def unknownFault (marker word : String) : Run σ Fault := do
  let shown ← s.bold (marker ++ word)
  let hint ← s.helpHint marker
  return {
    kind := .commandNotFound
    message := "There is no enabled command named \"" ++ shown ++ "\""
    options := { hint := some (.text hint) } }

/-- The fault of a word whose commands are all denied to the caller. -/
def deniedFault (marker word : String) : Run σ Fault := do
  let shown ← s.bold word
  let hint ← s.helpHint marker
  return {
    kind := .permissionDenied
    message := "You have no Permissions to use the Command " ++ shown
    options := { hint := some (.text hint) } }

/-- Takes a line apart, if it is one for this switchboard. -/
def split? (text : Value) : Step σ (Option (String × List Char)) :=
  match text with
  | .text line => do
    let marker ← s.marker
    return (Line.split? marker.toList line.toList).map fun (word, text) =>
      (String.ofList word, text)
  | _ => return none

/-- Goes through the commands that a word of a line calls for. -/
def route (depth : Nat) (dispatch : Event → Run σ (List Outcome)) (event : Event)
    (marker word : String) (text : List Char) : Run σ (List Outcome) := do
  match (← get).registry.find word with
  | [] =>
    if s.config.answerUnknown then do
      let fault ← s.unknownFault marker word
      return [← s.report depth event {} fault]
    else do
      (Step.log (.silent word) : Step σ Unit)
      return []
  | ids =>
    match ← s.admitted event.client ids with
    | [] => do
      let fault ← s.deniedFault marker word
      return [← s.report depth event {} fault]
    | ids => s.settleAll depth dispatch event text ids

/-- One pass over an event, with a way to dispatch further lines inside of it. -/
def pass (depth : Nat) (dispatch : Event → Run σ (List Outcome)) (event : Event) :
    Run σ (List Outcome) := do
  if event.isSelf then return []
  else
    match ← s.split? event.text with
    | none => return []
    | some (word, text) => do
      let marker ← s.marker
      s.route depth dispatch event marker word text

/-- Dispatches an event; `depth` more lines may be dispatched inside of each other. -/
def dispatchWithin : Nat → Event → Run σ (List Outcome)
  | 0, event => s.pass 0 (fun _ => throw .nestedTooDeep) event
  | depth + 1, event => s.pass (depth + 1) (dispatchWithin depth) event

/-- How many lines may be dispatched inside of each other. -/
def nestingLimit : Nat := 200

/-- Dispatches an event: the outcome of each command that the line is for, or of the line itself. -/
def dispatch (event : Event) : Run σ (List Outcome) :=
  s.dispatchWithin nestingLimit event

/-- Calls the handler of a command directly, with values given for its arguments. -/
def callDirectly (id : CommandId) (event : Event) (record : Record) : Run σ Value := do
  match (← get).registry.command? id with
  | none => throw (.command .unknown)
  | some c =>
    match s.target event with
    | .error e => throw e
    | .ok target =>
      if c.isDestroyed then throw (.command (.destroyed c.name))
      else do
        let scene : Scene σ :=
          { event, target, depth := nestingLimit, dispatch := s.dispatchWithin nestingLimit }
        let (result, _) ← s.call scene id c record
        match result with
        | .ok value => return value
        | .error e => throw e

end Switchboard.Setup
