import Switchboard.Grammar
import Switchboard.World

/-!
# Evaluate

Whether the text of a line lets a command run.  The grammar of the command is walked over the text,
and the verdict on the walk is put into words: a fault for the caller, or none if the handler may be
called.
-/

namespace Switchboard.Setup

variable {σ : Type} (s : Setup σ)

/-- The hint that leads to the manual of a command. -/
def manualHint (c : Command) : Run σ String := do
  let marker ← s.marker
  return "for command usage see " ++ (← s.bold (marker ++ "man " ++ c.name))

/-- The fault of a required argument that rejected the text. -/
def requiredFault (id : CommandId) (c : Command) (a : Argument) (r : Rejection) :
    Run σ Fault := do
  let manual ← s.bold a.manual
  let reason ← s.bold r.message
  let hint ← s.manualHint c
  return {
    kind := .requiredArgument
    message := "Argument parsed with an error " ++ manual ++ ": " ++ reason
    options := { hint := some (.text hint), command := some id, argument := some a } }

/-- The fault of an argument that was left out while text is left over. -/
def optionalFault (id : CommandId) (a : Argument) (r : Rejection) : Run σ Fault := do
  let reason ← s.bold r.message
  return {
    kind := .optionalArgument
    message := "Possible Error during parsing Argument " ++ a.manual ++ ": " ++ reason
    options := { command := some id, argument := some a } }

/-- The fault of text that is left over. -/
def surplusFault (id : CommandId) (c : Command) : Run σ Fault := do
  let usage ← s.usage c
  return {
    kind := .tooManyArguments
    message := "Too many Arguments passed!"
    options := { hint := some (.text ("usage: " ++ usage)), command := some id } }

/-- Logs what is known about text that is left over. -/
def logLeftover (c : Command) (w : Walk) : Step σ Unit := do
  Step.log (.unparsed c.name)
  Step.log (.tolerance c.tolerant)
  Step.log (.softCount w.soft.length)
  Step.log (.leftover (String.ofList w.left))

/-- The fault that a verdict amounts to, if any. -/
def verdictFault (id : CommandId) (c : Command) (w : Walk) : Run σ (Option Fault) :=
  match w.verdict c.tolerant with
  | .ready => return none
  | .required a r => do
    return some (← s.requiredFault id c a r)
  | .optional a r => do
    (logLeftover c w : Step σ Unit)
    return some (← s.optionalFault id a r)
  | .surplus => do
    (logLeftover c w : Step σ Unit)
    return some (← s.surplusFault id c)

/-- Whether a command may run on a text: the outcome has a fault if not. -/
def evaluate (id : CommandId) (text : List Char) : Run σ Outcome := do
  let registry := (← get).registry
  match registry.command? id with
  | none => throw (.command .unknown)
  | some c =>
    match Walk.along (registry.grammar c) text with
    | .error e => throw e.toFailure
    | .ok w => do
      let fault ← s.verdictFault id c w
      return { command := some id, record := w.record, fault }

end Switchboard.Setup
