import Switchboard.Fault

/-!
# Event

The events that a switchboard answers, and what comes of them.  An event is a line from a client,
with the mode in which it was sent; the mode decides where replies go.
-/

namespace Switchboard

/-- A client of the host. -/
structure Client where
  name : String
  /-- The number of channels that the client is in. -/
  channels : Nat := 1

/-- Where a text can be sent. -/
inductive Sink where
  /-- The private chat of a client. -/
  | caller (client : String)
  /-- A channel that a client is in. -/
  | channel (client : String) (index : Nat)
  /-- The chat of the whole server. -/
  | backend
  deriving DecidableEq

/-- The modes in which lines are sent. -/
inductive Mode where
  | caller
  | channel
  | server
  deriving DecidableEq

namespace Mode

/-- All modes. -/
def all : List Mode := [.caller, .channel, .server]

/-- The number of a mode. -/
def number : Mode → Nat
  | .caller => 1
  | .channel => 2
  | .server => 3

/-- The name of a mode. -/
def name : Mode → String
  | .caller => "PRIVATE"
  | .channel => "CHANNEL"
  | .server => "SERVER"

/-- The mode of a name. -/
def ofName? (s : String) : Option Mode :=
  all.find? (·.name == s)

end Mode

/-- The mode of an event as a host gives it: by itself, or by a value that may equal its number. -/
inductive Delivery where
  | named (mode : Mode)
  | raw (value : Value)

namespace Delivery

/-- The mode that is given, if it is one. -/
def mode? : Delivery → Option Mode
  | .named mode => some mode
  | .raw value => Mode.all.find? fun mode => value.isNumber mode.number

/-- The mode as it is logged. -/
def literal : Delivery → String
  | .named mode => "<Mode." ++ mode.name ++ ": " ++ decimalText mode.number ++ ">"
  | .raw value => value.literal

end Delivery

/-- A line from a client. -/
structure Event where
  /-- The line; what is no text is never a command. -/
  text : Value
  client : Client
  mode : Delivery := .named .caller
  /-- Whether the switchboard wrote the line itself. -/
  isSelf : Bool := false

/-- What happened to a command that a line was for, or to the line itself if no command came up. -/
structure Outcome where
  command : Option CommandId := none
  record : Record := []
  invoked : Bool := false
  fault : Option Fault := none
  /-- Whether the time that the handler took was measured. -/
  timed : Bool := false
  /-- What interrupted the command, or the delivery of its fault. -/
  error : Option Failure := none

end Switchboard
