import Switchboard.Log

/-!
# Surface

Surfacing a fault by itself: options are laid over it, it is logged at its own level, and then its
one line is handed to a reply.  What is logged stays logged even if the reply refuses the line.
-/

namespace Switchboard

/-- What the line of a fault is handed to. -/
inductive Reply where
  | working
  /-- Takes no line and fails instead. -/
  | broken (failure : Failure)
  /-- Nothing that a line can be handed to. -/
  | none

/-- Why a fault was not surfaced. -/
inductive SurfaceError where
  | refused (e : FaultError)
  | undelivered (failure : Failure)

/-- What comes of surfacing a fault. -/
structure Surfaced where
  result : Except SurfaceError Fault
  logs : List LogRecord := []
  sent : List String := []

/-- Surfaces a fault, or what was given in its place. -/
def surface (codes : CodeTable) (fault : Option Fault) (reply : Reply) (added : FaultOptions) :
    Surfaced :=
  match fault, reply with
  | none, _ => { result := .error (.refused .notFault) }
  | some _, .none => { result := .error (.refused .notCallable) }
  | some fault, reply =>
      let fault := fault.overlay added
      let logs := [{ event := fault.event codes }]
      match reply with
      | .broken failure => { result := .error (.undelivered failure), logs }
      | _ => { result := .ok fault, logs, sent := [fault.render] }

end Switchboard
