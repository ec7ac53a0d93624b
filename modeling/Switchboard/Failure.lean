import Switchboard.Argument.Builder
import Switchboard.Argument.Validate
import Switchboard.Command
import Switchboard.Misuse

/-!
# Failure

What can go wrong while a switchboard is at work: a text is rejected, a call is refused, a host's
callback raises.  A failure says what happened and never how it is reported; whether it ends more
than the step it happened in is up to who runs the step.
-/

namespace Switchboard

/-- Something that went wrong. -/
inductive Failure where
  | rejected (r : Rejection)
  /-- An argument of no kind was asked to read. -/
  | unusable
  | build (e : BuildError)
  | config (e : ConfigError)
  | command (e : CommandError)
  | pattern (e : Pattern.Error)
  | misuse (m : Misuse)
  /-- A line came from a channel, but its client is in none. -/
  | noChannel
  /-- A record has no value under the name. -/
  | noValue (name : String)
  /-- A value that is no text was given to search for. -/
  | filterNotText
  /-- Lines were dispatched inside of lines beyond any use. -/
  | nestedTooDeep
  /-- A callback of the host raised an error of some kind. -/
  | raised (kind message : String)
  deriving Inhabited

/-- The wording of a failure. -/
def Failure.message : Failure → String
  | .rejected r => r.message
  | .unusable => ArgumentKind.bare.noun ++ " cannot validate input"
  | .build e => e.message
  | .config e => e.message
  | .command e => e.message
  | .pattern e => (BuildError.badPattern e).message
  | .misuse m => m.message
  | .noChannel => "list index out of range"
  | .noValue name => Text.quoted name
  | .filterNotText => "first argument must be string or compiled pattern"
  | .nestedTooDeep => "maximum recursion depth exceeded"
  | .raised _ message => message

/-- The failure that a refusal to read is. -/
def Refusal.toFailure : Refusal → Failure
  | .rejected r => .rejected r
  | .unusable .noKind => .unusable
  | .unusable .bytesPattern => .misuse .bytesInText

end Switchboard
