import Switchboard.Fault

/-!
# Log

What a switchboard logs.  A record is an event with the failure that it is about, if there is one;
its source, level and wording follow from the event.
-/

namespace Switchboard

/-- The parts of a switchboard that log. -/
inductive LogSource where
  | commands
  | config
  | dispatcher
  | faults
  deriving DecidableEq

/-- What is logged. -/
inductive LogEvent where
  | registering (name : String)
  | duplicate (name : String)
  | enabled (name : String)
  | disabled (name : String)
  | destroyed (name : String)
  | accessorFailed
  | fault (label : String) (kind : FaultKind) (message : String)
  /-- A line with an unknown command is not answered. -/
  | silent (name : String)
  | predicateFailed (name : String)
  | unparsed (name : String)
  | tolerance (tolerant : Bool)
  | softCount (count : Nat)
  | leftover (text : String)
  | finished (name : String)
  | failed (name : String)
  | handlerFailed (name : String)
  | undelivered (kind : FaultKind)
  | unprocessed (name : String)
  /-- A reply has nowhere to go; the mode is as the host gave it. -/
  | discarded (mode text : String)
  deriving DecidableEq

namespace LogEvent

/-- The part that logs the event. -/
def source : LogEvent → LogSource
  | .registering _ | .duplicate _ | .enabled _ | .disabled _ | .destroyed _ => .commands
  | .accessorFailed => .config
  | .fault .. => .faults
  | _ => .dispatcher

/-- The level at which the event is logged. -/
def level : LogEvent → Level
  | .registering _ | .enabled _ | .disabled _ | .destroyed _ => .info
  | .duplicate _ | .accessorFailed | .discarded .. => .warning
  | .fault _ kind _ => kind.level
  | .predicateFailed _ | .handlerFailed _ | .undelivered _ | .unprocessed _ => .error
  | .silent _ | .unparsed _ | .tolerance _ | .softCount _ | .leftover _ | .finished _
  | .failed _ => .debug

/-- The wording of the event.  The time that a command took is left open. -/
def message : LogEvent → String
  | .registering name => "registering command " ++ Text.quoted name
  | .duplicate name =>
      "there is already a command with name " ++ Text.quoted name ++
        ", dispatching may not work as expected"
  | .enabled name => "command " ++ Text.quoted name ++ " has been enabled"
  | .disabled name => "command " ++ Text.quoted name ++ " has been disabled"
  | .destroyed name => "command " ++ Text.quoted name ++ " has been destroyed"
  | .accessorFailed => "prefix accessor failed, falling back to " ++ Text.quoted defaultMarker
  | .fault label kind message => "fault " ++ label ++ " (" ++ kind.name ++ "): " ++ message
  | .silent name => "no enabled command named " ++ Text.quoted name ++ ", staying silent"
  | .predicateFailed name =>
      "an error happened during permission handling of command " ++ Text.quoted name
  | .unparsed name => "argument parsing failed for command " ++ Text.quoted name
  | .tolerance tolerant =>
      "should ignore too many args? " ++ (Value.bool tolerant).literal
  | .softCount count => "how many possible errors? " ++ decimalText count
  | .leftover text => "leftover arguments: " ++ Text.quoted text
  | .finished name => "command " ++ Text.quoted name ++ " finished successfully after ?ms"
  | .failed name => "command " ++ Text.quoted name ++ " failed after ?ms"
  | .handlerFailed name =>
      "error while handling command " ++ Text.quoted name ++
        ", this is probably a problem with the script declaring it"
  | .undelivered kind => "could not deliver " ++ kind.name ++ " to the caller"
  | .unprocessed name => "command " ++ Text.quoted name ++ " could not be processed"
  | .discarded mode text =>
      "no reply channel set for mode " ++ mode ++ ", message " ++ Text.quoted text ++ " not sent"

end LogEvent

/-- A record of the log. -/
structure LogRecord where
  event : LogEvent
  failure : Option Failure := none

/-- The event of surfacing a fault. -/
def Fault.event (codes : CodeTable) (f : Fault) : LogEvent :=
  .fault (f.code.label codes) f.kind f.message

end Switchboard
